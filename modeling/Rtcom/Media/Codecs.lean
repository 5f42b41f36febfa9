/-
The FFmpeg objects of encoders and decoders: the context, the frame and the packet that `Initialize` allocates and
`Close` and the destructor free, for any number of `MediaEncoder` and `MediaDecoder`. Their pointers are those of a
`Heap`; `opened` are the contexts that `avcodec_open2` has accepted. The encoder's `Initialize` returns where no context
is allocated, the decoder's calls `Close` first. An allocation of a frame or a packet is taken to succeed.

- `codecs_alive`: in every run the pointers that are not null point to objects that are live, each to its own, nothing
  is freed twice, and a call that passes the checks of `EncodeAudio`, `EncodeVideo`, `Flush`, `Decode` or `DecodeAudio`
  has an open context, a frame and a packet.
- `codecs_leak_iff`: nothing is leaked exactly if each `Initialize` that finds its codec is called on an object without
  a context.
- `contexts_freed`: the calls of a session leak nothing, and leave nothing when they have ended.
-/
import Mathlib.Tactic
import Rtcom.Lib.Handles
import Rtcom.Lib.Runs

namespace Rtcom

open Runs Handles

/-! ## Model -/

inductive CodecPtr where
  | ctx | frame | pkt
deriving DecidableEq, Repr

inductive Codec where
  | encoder (n : ℕ)
  | decoder (n : ℕ)
deriving DecidableEq, Repr

/-- what FFmpeg answers to `Initialize`: addresses of what it allocates -/
structure CodecAnswers where
  found : Bool
  ctx : Option ℕ
  opens : Bool
  frame : ℕ
  pkt : ℕ
deriving DecidableEq, Repr

structure Codecs where
  heap : Heap (Codec × CodecPtr) ℕ
  opened : Finset ℕ
  /-- `initialized_` of the decoders -/
  initialized : ℕ → Bool

inductive CodecOp where
  | initialise (c : Codec) (answers : CodecAnswers)
  /-- `Close`, and the destructor -/
  | close (c : Codec)
deriving DecidableEq, Repr

inductive CodecCall where
  | encodeAudio (n : ℕ)
  | encodeVideo (n : ℕ)
  | flush (n : ℕ)
  | decode (n : ℕ)
  | decodeAudio (n : ℕ)
deriving DecidableEq, Repr

namespace Codecs

def new : Codecs := ⟨.empty, ∅, fun _ => false⟩

def ptr (s : Codecs) (c : Codec) (p : CodecPtr) : Option ℕ := s.heap.slot (c, p)

def store (s : Codecs) (c : Codec) (p : CodecPtr) (x : Option ℕ) : Codecs := { s with heap := s.heap.store (c, p) x }

def setInitialized (s : Codecs) (c : Codec) (b : Bool) : Codecs :=
  match c with
  | .encoder _ => s
  | .decoder n => { s with initialized := Function.update s.initialized n b }

def close (s : Codecs) (c : Codec) : Codecs :=
  let s' : Codecs := { s with
    heap := ((s.heap.free (c, .pkt)).free (c, .frame)).free (c, .ctx)
    opened := s.opened \ (s.ptr c .ctx).toFinset }
  s'.setInitialized c false

def openContext (s : Codecs) (c : Codec) : Codecs := { s with opened := s.opened ∪ (s.ptr c .ctx).toFinset }

/-- the frame and the packet -/
def allocate (s : Codecs) (c : Codec) (a : CodecAnswers) : Codecs :=
  (((s.openContext c).store c .frame (some a.frame)).store c .pkt (some a.pkt)).setInitialized c true

def initialise (s : Codecs) (c : Codec) (a : CodecAnswers) : Codecs × Bool :=
  if !a.found then (s, false)
  else
    let s := s.store c .ctx a.ctx
    match c with
    | .encoder _ =>
      if a.ctx.isNone then (s, false)
      else if !a.opens then (s.close c, false)
      else (s.allocate c a, true)
    | .decoder _ =>
      if a.ctx.isNone || !a.opens then (s.close c, false)
      else (s.allocate c a, true)

def step (s : Codecs) : CodecOp → Codecs
  | .initialise c a => (s.initialise c a).1
  | .close c => s.close c

end Codecs

namespace CodecCall

/-- the object of a call -/
def codec : CodecCall → Codec
  | encodeAudio n | encodeVideo n | flush n => .encoder n
  | decode n | decodeAudio n => .decoder n

/-- the checks at the beginning of a call; those of its arguments aside -/
def passes (s : Codecs) : CodecCall → Bool
  | encodeAudio n | encodeVideo n =>
    (s.ptr (.encoder n) .ctx).isSome && (s.ptr (.encoder n) .frame).isSome && (s.ptr (.encoder n) .pkt).isSome
  | flush n => (s.ptr (.encoder n) .ctx).isSome && (s.ptr (.encoder n) .pkt).isSome
  | decode n | decodeAudio n => s.initialized n

end CodecCall

namespace Codecs

/-- FFmpeg allocates what is not live, and not one thing twice -/
def Fresh (s : Codecs) : CodecOp → Prop
  | .initialise _ a =>
    (a.ctx.toList ++ [a.frame, a.pkt]).Nodup ∧ ∀ x ∈ a.ctx.toList ++ [a.frame, a.pkt], x ∉ s.heap.live
  | .close _ => True

instance (s : Codecs) : (o : CodecOp) → Decidable (Fresh s o)
  | .initialise _ _ => inferInstanceAs (Decidable (_ ∧ _))
  | .close _ => isTrue trivial

/-! ## Pointers -/

variable {s : Codecs}

theorem ptr_store (c : Codec) (p : CodecPtr) (x : Option ℕ) (c' : Codec) (p' : CodecPtr) :
    (s.store c p x).ptr c' p' = if c' = c ∧ p' = p then x else s.ptr c' p' := by
  by_cases h : (c', p') = (c, p)
  · rw [if_pos (Prod.mk.inj h)]
    simp [ptr, store, Heap.store, h]
  · rw [if_neg fun heq => h (Prod.ext heq.1 heq.2)]
    simp only [ptr, store, Heap.store, Function.update_of_ne h]

theorem setInitialized_fields (c : Codec) (b : Bool) :
    (s.setInitialized c b).heap = s.heap ∧ (s.setInitialized c b).opened = s.opened := by
  cases c <;> exact ⟨rfl, rfl⟩

theorem ptr_setInitialized (c : Codec) (b : Bool) (c' : Codec) (p : CodecPtr) :
    (s.setInitialized c b).ptr c' p = s.ptr c' p := by
  rw [ptr, (setInitialized_fields c b).1]
  rfl

theorem ptr_close (c c' : Codec) (p : CodecPtr) : (s.close c).ptr c' p = if c' = c then none else s.ptr c' p := by
  rw [close, ptr_setInitialized]
  simp only [ptr, Heap.free, Function.update_apply]
  by_cases hc : c' = c
  · subst hc
    cases p <;> simp
  · simp [hc]

theorem ptr_allocate (c : Codec) (a : CodecAnswers) (c' : Codec) (p : CodecPtr) : (s.allocate c a).ptr c' p =
    if c' = c ∧ p = .pkt then some a.pkt else if c' = c ∧ p = .frame then some a.frame else s.ptr c' p := by
  rw [allocate, ptr_setInitialized, ptr_store, ptr_store]
  rfl

theorem opened_close (c : Codec) : (s.close c).opened = s.opened \ (s.ptr c .ctx).toFinset := by
  rw [close, (setInitialized_fields c false).2]

theorem opened_allocate (c : Codec) (a : CodecAnswers) :
    (s.allocate c a).opened = s.opened ∪ (s.ptr c .ctx).toFinset := by
  rw [allocate, (setInitialized_fields c true).2]
  rfl

theorem leaked_close (c : Codec) : (s.close c).heap.leaked = s.heap.leaked := by
  rw [close, (setInitialized_fields c false).1]
  rfl

theorem leaked_store (c : Codec) (p : CodecPtr) (x : Option ℕ) :
    (s.store c p x).heap.leaked = s.heap.leaked ++ (s.ptr c p).toList := rfl

theorem leaked_allocate (c : Codec) (a : CodecAnswers) : (s.allocate c a).heap.leaked =
    s.heap.leaked ++ (s.ptr c .frame).toList ++ (s.ptr c .pkt).toList := by
  rw [allocate, (setInitialized_fields c true).1, leaked_store, leaked_store, ptr_store, if_neg (by simp)]
  rfl

theorem initialized_setInitialized (c : Codec) (b : Bool) (n : ℕ) :
    (s.setInitialized c b).initialized n = if c = .decoder n then b else s.initialized n := by
  cases c with
  | encoder m => simp [setInitialized]
  | decoder m =>
    by_cases h : n = m
    · subst h
      simp [setInitialized]
    · simp [setInitialized, Function.update_of_ne h, Ne.symm h]

/-- what `Initialize` does -/
theorem initialise_cases (s : Codecs) (c : Codec) (a : CodecAnswers) :
    a.found = false ∧ s.initialise c a = (s, false) ∨
    a.found = true ∧ a.ctx = none ∧ (∃ n, c = .encoder n) ∧ s.initialise c a = (s.store c .ctx none, false) ∨
    a.found = true ∧ s.initialise c a = ((s.store c .ctx a.ctx).close c, false) ∨
    a.found = true ∧ ∃ x, a.ctx = some x ∧ s.initialise c a = ((s.store c .ctx (some x)).allocate c a, true) := by
  unfold initialise
  cases hfound : a.found with
  | false => exact Or.inl ⟨rfl, rfl⟩
  | true =>
    cases hctx : a.ctx with
    | none =>
      cases c with
      | encoder n => exact Or.inr (Or.inl ⟨rfl, rfl, ⟨n, rfl⟩, rfl⟩)
      | decoder n => exact Or.inr (Or.inr (Or.inl ⟨rfl, rfl⟩))
    | some x =>
      cases hopens : a.opens with
      | false =>
        refine Or.inr (Or.inr (Or.inl ⟨rfl, ?_⟩))
        cases c <;> simp
      | true =>
        refine Or.inr (Or.inr (Or.inr ⟨rfl, x, rfl, ?_⟩))
        cases c <;> simp

/-! ## Life and death -/

/-- at rest, a context is open and has a frame and a packet, and an initialized decoder has a context -/
structure Alive (s : Codecs) : Prop where
  sound : s.heap.Sound
  opened : ∀ c x, s.ptr c .ctx = some x → x ∈ s.opened ∧ (s.ptr c .frame).isSome ∧ (s.ptr c .pkt).isSome
  initialized : ∀ n, s.initialized n → (s.ptr (.decoder n) .ctx).isSome

theorem sound_close (h : s.heap.Sound) (c : Codec) : (s.close c).heap.Sound := by
  rw [close, (setInitialized_fields c false).1]
  exact Heap.sound_free (Heap.sound_free (Heap.sound_free h _) _) _

/-- an object that is closed, other contexts as they were -/
theorem alive_close (hsound : s.heap.Sound) {c : Codec}
    (hopened : ∀ c' x, c' ≠ c → s.ptr c' .ctx = some x →
      x ∈ s.opened ∧ (s.ptr c' .frame).isSome ∧ (s.ptr c' .pkt).isSome)
    (hinitialized : ∀ n, Codec.decoder n ≠ c → s.initialized n → (s.ptr (.decoder n) .ctx).isSome) :
    Alive (s.close c) := by
  refine ⟨sound_close hsound c, fun c' x hx => ?_, fun n hn => ?_⟩
  · rw [ptr_close] at hx
    split_ifs at hx with hc
    obtain ⟨hopen, hframe, hpkt⟩ := hopened c' x hc hx
    rw [ptr_close, ptr_close, if_neg hc, if_neg hc, opened_close]
    refine ⟨Finset.mem_sdiff.2 ⟨hopen, fun hmem => ?_⟩, hframe, hpkt⟩
    -- no other object has this context
    have hsame : (c', CodecPtr.ctx) = (c, CodecPtr.ctx) := hsound.inj hx (by simpa [ptr] using hmem)
    exact hc (Prod.mk.inj hsame).1
  · rw [close, initialized_setInitialized] at hn
    split_ifs at hn with hc
    rw [ptr_close, if_neg (Ne.symm hc)]
    exact hinitialized n (Ne.symm hc) hn

theorem sound_allocate (h : s.heap.Sound) (c : Codec) {a : CodecAnswers} (hframe : a.frame ∉ s.heap.live)
    (hpkt : a.pkt ∉ s.heap.live) (hne : a.frame ≠ a.pkt) : (s.allocate c a).heap.Sound := by
  rw [allocate, (setInitialized_fields c true).1]
  have hstored : (s.heap.store (c, .frame) (some a.frame)).Sound := by
    refine Heap.sound_store h _ fun y hy => ?_
    rwa [← Option.mem_some.1 hy]
  refine Heap.sound_store hstored _ fun y hy => ?_
  rw [← Option.mem_some.1 hy]
  simpa [store, openContext, Heap.store, Ne.symm hne] using hpkt

theorem alive_store_none (h : Alive s) (n : ℕ) : Alive (s.store (.encoder n) .ctx none) := by
  refine ⟨Heap.sound_store h.sound _ (by simp), fun c x hx => ?_, fun m hm => ?_⟩
  · rw [ptr_store] at hx
    split_ifs at hx with hc
    have hother : ∀ p, p ≠ .ctx → (s.store (.encoder n) .ctx none).ptr c p = s.ptr c p := fun p hp => by
      rw [ptr_store, if_neg fun heq => hp heq.2]
    rw [hother .frame (by decide), hother .pkt (by decide)]
    exact h.opened c x hx
  · rw [ptr_store, if_neg (by simp)]
    exact h.initialized m hm

theorem alive_allocate (h : Alive s) (c : Codec) {a : CodecAnswers} {x : ℕ} (hctx : a.ctx = some x)
    (ho : Fresh s (.initialise c a)) : Alive ((s.store c .ctx (some x)).allocate c a) := by
  obtain ⟨hnodup, hfresh⟩ := ho
  rw [hctx] at hnodup hfresh
  obtain ⟨⟨hxf, hxp⟩, hfp⟩ : (x ≠ a.frame ∧ x ≠ a.pkt) ∧ a.frame ≠ a.pkt := by simpa using hnodup
  have hlive : ∀ y, y ≠ x → y ∉ s.heap.live → y ∉ (s.store c .ctx (some x)).heap.live := by
    intro y hy hmem
    simpa [store, Heap.store, hy] using hmem
  have hstored : (s.store c .ctx (some x)).heap.Sound := by
    refine Heap.sound_store h.sound _ fun y hy => ?_
    rw [← Option.mem_some.1 hy]
    exact hfresh x (by simp)
  refine ⟨?_, fun c' y hy => ?_, fun n hn => ?_⟩
  · exact sound_allocate hstored c (hlive _ (Ne.symm hxf) (hfresh _ (by simp))) (hlive _ (Ne.symm hxp)
      (hfresh _ (by simp))) hfp
  · simp only [ptr_allocate, ptr_store, opened_allocate, reduceCtorEq, and_false, if_false, and_true] at hy ⊢
    by_cases hc : c' = c
    · subst hc
      simp only [if_true] at hy ⊢
      obtain rfl := Option.some.inj hy
      simp
    · simp only [if_neg hc] at hy ⊢
      obtain ⟨hopen, hframe, hpkt⟩ := h.opened c' y hy
      exact ⟨Finset.mem_union_left _ hopen, hframe, hpkt⟩
  · rw [allocate, initialized_setInitialized] at hn
    rw [ptr_allocate, if_neg (by simp), if_neg (by simp), ptr_store]
    by_cases hc : c = .decoder n
    · rw [if_pos ⟨hc.symm, rfl⟩]
      rfl
    · rw [if_neg hc] at hn
      rw [if_neg fun heq => hc heq.1.symm]
      exact h.initialized n hn

theorem alive_step (h : Alive s) (o : CodecOp) (ho : Fresh s o) : Alive (s.step o) := by
  cases o with
  | close c => exact alive_close h.sound (fun c' x _ => h.opened c' x) fun n _ => h.initialized n
  | initialise c a =>
    rw [step]
    rcases initialise_cases s c a with ⟨-, heq⟩ | ⟨-, -, ⟨n, rfl⟩, heq⟩ | ⟨-, heq⟩ | ⟨-, x, hctx, heq⟩
    · rw [heq]
      exact h
    · rw [heq]
      exact alive_store_none h n
    · rw [heq]
      have hstored : (s.store c .ctx a.ctx).heap.Sound :=
        Heap.sound_store h.sound _ fun y hy => ho.2 y (List.mem_append_left _ (Option.mem_toList.2 hy))
      refine alive_close hstored (fun c' x hc hx => ?_) fun n hc hn => ?_
      · simp only [ptr_store, hc, false_and, if_false] at hx ⊢
        exact h.opened c' x hx
      · rw [ptr_store, if_neg fun heq => hc heq.1]
        exact h.initialized n hn
    · rw [heq]
      exact alive_allocate h c hctx ho

theorem alive_new : Alive new := by
  refine ⟨Heap.sound_empty, fun c x hx => ?_, fun n hn => ?_⟩
  · cases hx
  · cases hn

/-- **Codecs**: in every run of the set-up and the end of any number of encoders and decoders, whatever FFmpeg answers,
as long as it allocates what is not live -/
theorem codecs_alive (ops : List CodecOp) (h : Along step Fresh new ops) :
    let s := exec step new ops
    s.heap.faults = [] ∧ (∀ x, x ∈ s.heap.live ↔ (∃ c p, s.ptr c p = some x) ∨ x ∈ s.heap.leaked) ∧
      (∀ c p c' p' x, s.ptr c p = some x → s.ptr c' p' = some x → c = c' ∧ p = p') ∧
      ∀ call : CodecCall, call.passes s → ∃ ctx ∈ s.opened, s.ptr call.codec .ctx = some ctx ∧
        (s.ptr call.codec .frame).isSome ∧ (s.ptr call.codec .pkt).isSome := by
  intro s
  have halive : Alive s := exec_inv (P := Alive) (fun s o hs ho => alive_step hs o ho) alive_new ops h
  refine ⟨halive.sound.faultless, fun x => ?_, fun c p c' p' x hx hx' => ?_, fun call hcall => ?_⟩
  · rw [halive.sound.live_iff]
    simp only [ptr, Prod.exists]
  · exact Prod.mk.inj (halive.sound.inj hx hx')
  · have hctx : (s.ptr call.codec .ctx).isSome := by
      cases call with
      | encodeAudio n | encodeVideo n => exact (Bool.and_eq_true_iff.1 (Bool.and_eq_true_iff.1 hcall).1).1
      | flush n => exact (Bool.and_eq_true_iff.1 hcall).1
      | decode n | decodeAudio n => exact halive.initialized n hcall
    obtain ⟨ctx, hctx⟩ := Option.isSome_iff_exists.1 hctx
    obtain ⟨hopen, hothers⟩ := halive.opened _ ctx hctx
    exact ⟨ctx, hopen, hctx, hothers⟩

/-- an encoder that fails to open, is set up again while it is open, and a decoder -/
theorem codecs_alive_twice :
    let s := exec step new [.initialise (.encoder 0) ⟨true, some 1, false, 2, 3⟩,
      .initialise (.encoder 0) ⟨true, some 1, true, 2, 3⟩, .initialise (.encoder 0) ⟨true, none, true, 4, 5⟩,
      .initialise (.decoder 0) ⟨true, some 4, true, 5, 6⟩, .close (.encoder 0)]
    s.heap.faults = [] ∧ (∀ x, x ∈ s.heap.live ↔ (∃ c p, s.ptr c p = some x) ∨ x ∈ s.heap.leaked) ∧
      (∀ c p c' p' x, s.ptr c p = some x → s.ptr c' p' = some x → c = c' ∧ p = p') ∧
      ∀ call : CodecCall, call.passes s → ∃ ctx ∈ s.opened, s.ptr call.codec .ctx = some ctx ∧
        (s.ptr call.codec .frame).isSome ∧ (s.ptr call.codec .pkt).isSome :=
  codecs_alive _ (by decide)

/-! ## Leaks -/

/-- `Initialize` gets to the allocation of the context on an object that has none -/
def OnClosed (s : Codecs) : CodecOp → Prop
  | .initialise c a => a.found → s.ptr c .ctx = none
  | .close _ => True

/-- as long as nothing is leaked, an object without a context has nothing -/
def Tidy (s : Codecs) : Prop :=
  s.heap.leaked = [] → ∀ c, s.ptr c .ctx = none → s.ptr c .frame = none ∧ s.ptr c .pkt = none

theorem tidy_close (h : Tidy s) (c : Codec) : Tidy (s.close c) := by
  intro hleaked c' hctx
  rw [leaked_close] at hleaked
  rw [ptr_close, ptr_close]
  rw [ptr_close] at hctx
  split_ifs at hctx ⊢ with hc
  · exact ⟨rfl, rfl⟩
  · exact h hleaked c' hctx

theorem tidy_store (h : Tidy s) (c : Codec) (x : Option ℕ) : Tidy (s.store c .ctx x) := by
  intro hleaked c' hctx
  rw [leaked_store, List.append_eq_nil_iff, Option.toList_eq_nil_iff] at hleaked
  rw [ptr_store] at hctx
  simp only [ptr_store, reduceCtorEq, and_false, if_false]
  by_cases hc : c' = c
  · subst hc
    exact h hleaked.1 c' hleaked.2
  · rw [if_neg fun heq => hc heq.1] at hctx
    exact h hleaked.1 c' hctx

theorem tidy_allocate (h : Tidy s) {c : Codec} (a : CodecAnswers) (hctx : s.ptr c .ctx ≠ none) :
    Tidy (s.allocate c a) := by
  intro hleaked c' hctx'
  rw [leaked_allocate, List.append_eq_nil_iff, List.append_eq_nil_iff] at hleaked
  simp only [ptr_allocate, reduceCtorEq, and_false, if_false, and_true] at hctx' ⊢
  by_cases hc : c' = c
  · subst hc
    exact absurd hctx' hctx
  · rw [if_neg hc, if_neg hc]
    exact h hleaked.1.1 c' hctx'

theorem tidy_step (h : Tidy s) (o : CodecOp) : Tidy (s.step o) := by
  cases o with
  | close c => exact tidy_close h c
  | initialise c a =>
    rw [step]
    rcases initialise_cases s c a with ⟨-, heq⟩ | ⟨-, -, -, heq⟩ | ⟨-, heq⟩ | ⟨-, x, -, heq⟩
    · rw [heq]
      exact h
    · rw [heq]
      exact tidy_store h c none
    · rw [heq]
      exact tidy_close (tidy_store h c a.ctx) c
    · rw [heq]
      exact tidy_allocate (tidy_store h c (some x)) a (by simp [ptr_store])

theorem leaked_step (h : Tidy s) (o : CodecOp) :
    (s.step o).heap.leaked = [] ↔ s.heap.leaked = [] ∧ OnClosed s o := by
  cases o with
  | close c => simp [step, leaked_close, OnClosed]
  | initialise c a =>
    rw [step, OnClosed]
    rcases initialise_cases s c a with ⟨hfound, heq⟩ | ⟨hfound, -, -, heq⟩ | ⟨hfound, heq⟩ | ⟨hfound, x, -, heq⟩
    · simp [heq, hfound]
    · simp [heq, hfound, leaked_store]
    · simp [heq, hfound, leaked_close, leaked_store]
    · rw [heq, leaked_allocate, leaked_store]
      simp only [ptr_store, reduceCtorEq, and_false, if_false, List.append_eq_nil_iff, Option.toList_eq_nil_iff, hfound,
        forall_const]
      constructor
      · rintro ⟨⟨hboth, -⟩, -⟩
        exact hboth
      · rintro ⟨hleaked, hctx⟩
        obtain ⟨hframe, hpkt⟩ := h hleaked c hctx
        exact ⟨⟨⟨hleaked, hctx⟩, hframe⟩, hpkt⟩

theorem leaked_run (h : Tidy s) (ops : List CodecOp) :
    (exec step s ops).heap.leaked = [] ↔ s.heap.leaked = [] ∧ Along step OnClosed s ops :=
  exec_iff (P := fun s : Codecs => s.heap.leaked = []) (fun _ o hs => tidy_step hs o)
    (fun _ o hs => leaked_step hs o) h ops

theorem tidy_new : Tidy new := fun _ _ _ => ⟨rfl, rfl⟩

/-- **Leaks of the codecs**: exactly by calling `Initialize` once more -/
theorem codecs_leak_iff (ops : List CodecOp) :
    (exec step new ops).heap.leaked = [] ↔ Along step OnClosed new ops := by
  rw [leaked_run tidy_new]
  exact and_iff_right rfl

/-! ## The codecs of the calls -/

end Codecs

def CodecOp.codec : CodecOp → Codec
  | initialise c _ => c
  | close c => c

/-- `GetOrCreateContext` makes the codecs of a call and initializes each once; they end with the context. The k-th
context that is created has encoders and decoders 2k for audio and 2k + 1 for video -/
inductive ContextOp where
  | create (k : ℕ) (answers : Codec → CodecAnswers)
  | destroy (k : ℕ)

namespace ContextOp

open Codecs

def codecs (k : ℕ) : List Codec := [.encoder (2 * k), .encoder (2 * k + 1), .decoder (2 * k), .decoder (2 * k + 1)]

def ops : ContextOp → List CodecOp
  | create k answers => (codecs k).map fun c => .initialise c (answers c)
  | destroy k => (codecs k).map .close

def created : ContextOp → Option ℕ
  | create k _ => some k
  | destroy _ => none

/-- all contexts that were created are destroyed -/
def ends (os : List ContextOp) : List CodecOp := ((os.filterMap created).flatMap codecs).map .close

theorem codecs_apart {k k' : ℕ} {c : Codec} (h : c ∈ codecs k) (h' : c ∈ codecs k') : k = k' := by
  simp only [codecs, List.mem_cons, List.not_mem_nil, or_false] at h h'
  rcases h with rfl | rfl | rfl | rfl <;> simp at h' <;> omega

theorem codecs_nodup (k : ℕ) : (codecs k).Nodup := by simp [codecs]

theorem ptr_step_of_ne (s : Codecs) (o : CodecOp) {c : Codec} (h : o.codec ≠ c) (p : CodecPtr) :
    (s.step o).ptr c p = s.ptr c p := by
  cases o with
  | close c' =>
    have hne : c ≠ c' := Ne.symm h
    rw [step, ptr_close, if_neg hne]
  | initialise c' a =>
    have hne : c ≠ c' := Ne.symm h
    rw [step]
    rcases initialise_cases s c' a with ⟨-, heq⟩ | ⟨-, -, -, heq⟩ | ⟨-, heq⟩ | ⟨-, x, -, heq⟩
    · rw [heq]
    · simp [heq, ptr_store, hne]
    · simp [heq, ptr_close, ptr_store, hne]
    · simp [heq, ptr_allocate, ptr_store, hne]

/-- what is done to other codecs does not matter -/
theorem ptr_exec_of_ne (s : Codecs) (os : List CodecOp) {c : Codec} (h : ∀ o ∈ os, o.codec ≠ c) (p : CodecPtr) :
    (exec step s os).ptr c p = s.ptr c p :=
  exec_labels (P := fun s' : Codecs => s'.ptr c p = s.ptr c p)
    (fun s' o ho hs => (ptr_step_of_ne s' o (h o ho) p).trans hs) rfl

/-- codecs without a context, each initialized once -/
theorem onClosed_initialise (s : Codecs) (answers : Codec → CodecAnswers) {cs : List Codec} (hnodup : cs.Nodup)
    (h : ∀ c ∈ cs, s.ptr c .ctx = none) :
    Along step OnClosed s (cs.map fun c => .initialise c (answers c)) := by
  induction cs generalizing s with
  | nil => trivial
  | cons c cs ih =>
    obtain ⟨hc, hcs⟩ := List.nodup_cons.1 hnodup
    refine ⟨fun _ => h c List.mem_cons_self, ih _ hcs fun c' hc' => ?_⟩
    have hne : (CodecOp.initialise c (answers c)).codec ≠ c' := fun heq => hc ((show c = c' from heq) ▸ hc')
    rw [ptr_step_of_ne s _ hne]
    exact h c' (List.mem_cons_of_mem c hc')

theorem ptr_closed (s : Codecs) (cs : List Codec) (c : Codec) (p : CodecPtr) :
    (exec step s (cs.map .close)).ptr c p = if c ∈ cs then none else s.ptr c p := by
  induction cs generalizing s with
  | nil => rfl
  | cons c' cs ih =>
    rw [List.map_cons, exec, List.foldl_cons]
    show (exec step (s.close c') (cs.map .close)).ptr c p = _
    rw [ih, ptr_close]
    by_cases hc : c ∈ cs <;> by_cases hc' : c = c' <;> simp [hc, hc']

theorem onClosed_close (s : Codecs) (cs : List Codec) : Along step OnClosed s (cs.map .close) := by
  induction cs generalizing s with
  | nil => trivial
  | cons c cs ih => exact ⟨trivial, ih _⟩

theorem onClosed_contexts (s : Codecs) {os : List ContextOp} (hnodup : (os.filterMap created).Nodup)
    (h : ∀ k ∈ os.filterMap created, ∀ c ∈ codecs k, s.ptr c .ctx = none) :
    Along step OnClosed s (os.flatMap ops) := by
  induction os generalizing s with
  | nil => trivial
  | cons o os ih =>
    rw [List.flatMap_cons, along_append]
    cases o with
    | destroy k =>
      refine ⟨onClosed_close s _, ih _ hnodup fun k' hk' c hc => ?_⟩
      rw [ops, ptr_closed]
      split_ifs
      · rfl
      · exact h k' hk' c hc
    | create k answers =>
      have hcons : (ContextOp.create k answers :: os).filterMap created = k :: os.filterMap created := rfl
      rw [hcons] at hnodup h
      obtain ⟨hk, hos⟩ := List.nodup_cons.1 hnodup
      refine ⟨onClosed_initialise s answers (codecs_nodup k) (h k List.mem_cons_self), ih _ hos fun k' hk' c hc => ?_⟩
      rw [ptr_exec_of_ne]
      · exact h k' (List.mem_cons_of_mem k hk') c hc
      · intro o ho heq
        obtain ⟨c', hc', rfl⟩ := List.mem_map.1 ho
        obtain rfl : c' = c := heq
        exact hk (codecs_apart hc' hc ▸ hk')

/-- a codec of no context that was created has nothing -/
theorem ptr_untouched (os : List ContextOp) {c : Codec} (h : ∀ k ∈ os.filterMap created, c ∉ codecs k) (p : CodecPtr) :
    (exec step new (os.flatMap ops)).ptr c p = none := by
  refine exec_labels (P := fun s : Codecs => s.ptr c p = none) (fun s o ho hs => ?_) rfl
  obtain ⟨o', ho', hop⟩ := List.mem_flatMap.1 ho
  cases o' with
  | create k answers =>
    obtain ⟨c', hc', rfl⟩ := List.mem_map.1 hop
    have hne : c' ≠ c := fun heq => h k (List.mem_filterMap.2 ⟨_, ho', rfl⟩) (heq ▸ hc')
    exact (ptr_step_of_ne s (.initialise c' (answers c')) hne p).trans hs
  | destroy k =>
    obtain ⟨c', hc', rfl⟩ := List.mem_map.1 hop
    rw [step, ptr_close, hs, ite_self]

/-- **The codecs of the calls**: however calls come and go, their contexts leak nothing, and when those that are left
have been destroyed too, FFmpeg has nothing more of them -/
theorem contexts_freed (os : List ContextOp) (hnodup : (os.filterMap created).Nodup)
    (hfresh : Along step Fresh new (os.flatMap ops ++ ends os)) :
    let s := exec step new (os.flatMap ops ++ ends os)
    s.heap.faults = [] ∧ s.heap.live = ∅ := by
  intro s
  have halive : Alive s := exec_inv (P := Alive) (fun s o hs ho => alive_step hs o ho) alive_new _ hfresh
  have hleaked : s.heap.leaked = [] := by
    refine (leaked_run tidy_new _).2 ⟨rfl, (along_append _ _ _).2 ⟨?_, onClosed_close _ _⟩⟩
    exact onClosed_contexts new hnodup fun k _ c _ => rfl
  have hnull : ∀ c p, s.ptr c p = none := by
    intro c p
    have hs : s = exec step (exec step new (os.flatMap ops)) (ends os) := exec_append _ _ _
    rw [hs, ends, ptr_closed]
    split_ifs with hc
    · rfl
    · exact ptr_untouched os (fun k hk hck => hc (List.mem_flatMap.2 ⟨k, hk, hck⟩)) p
  refine ⟨halive.sound.faultless, Finset.eq_empty_of_forall_notMem fun x hx => ?_⟩
  rcases (halive.sound.live_iff x).1 hx with ⟨⟨c, p⟩, hcp⟩ | hx
  · exact absurd ((hnull c p).symm.trans hcp) (by simp)
  · rw [hleaked] at hx
    cases hx

/-- two calls; the codecs of the first are used up when the second begins -/
theorem contexts_freed_two :
    let answers : ℕ → Codec → CodecAnswers := fun n c => match c with
      | .encoder k => ⟨true, some (n + 6 * k), k ≠ 0, n + 6 * k + 1, n + 6 * k + 2⟩
      | .decoder k => ⟨true, some (n + 6 * k + 3), true, n + 6 * k + 4, n + 6 * k + 5⟩
    let os : List ContextOp := [.create 0 (answers 0), .destroy 0, .create 1 (answers 0)]
    let s := exec step new (os.flatMap ops ++ ends os)
    s.heap.faults = [] ∧ s.heap.live = ∅ := by
  intro answers os
  exact contexts_freed os (by decide) (by decide +kernel)

end ContextOp

end Rtcom
