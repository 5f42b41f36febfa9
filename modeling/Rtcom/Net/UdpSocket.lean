/-
`UdpSocket` as the owner of its descriptor: `Create`, `Close`, the destructor and the two moves of
`src/net/udp_socket.cpp`, on any number of sockets. `fd_` is a pointer of a `Heap`, null if it is negative; the heap
holds the descriptors that are open.

- `sockets_own`: in every run no descriptor is closed that is not open, no two sockets have one, and those open are
  those that a socket has and those leaked, as long as `socket` gives out what is not open; none is leaked exactly if
  `Create` and the moving constructor find no descriptor to overwrite.
- `sessions_own`: `RtpSession` makes a new socket each time, and leaks none however often it opens one.
-/
import Mathlib.Tactic
import Rtcom.Lib.Handles
import Rtcom.Lib.Runs

namespace Rtcom

open Runs Handles

namespace UdpSocket

/-- `fd_`, with -1 as null -/
def descriptor (fd : ℤ) : Option ℤ := if fd < 0 then none else some fd

inductive Op (ι : Type) where
  /-- `Create`, with the answer of `socket` -/
  | create (i : ι) (fd : ℤ)
  /-- `Close`, and the destructor -/
  | close (i : ι)
  /-- `j = std::move(i)` -/
  | assign (i j : ι)
  /-- `UdpSocket j(std::move(i))` -/
  | construct (i j : ι)

variable {ι : Type} [DecidableEq ι]

def step (H : Heap ι ℤ) : Op ι → Heap ι ℤ
  | .create i fd => H.store i (descriptor fd)
  | .close i => H.free i
  | .assign i j => if j = i then H else (H.free j).move i j
  | .construct i j => H.move i j

/-- `socket` returns a descriptor that is not open, and no socket is constructed from itself -/
def Allowed (H : Heap ι ℤ) : Op ι → Prop
  | .create _ fd => fd ∉ H.live
  | .construct i j => j ≠ i
  | _ => True

instance (H : Heap ι ℤ) : (o : Op ι) → Decidable (Allowed H o)
  | .create _ fd => inferInstanceAs (Decidable (fd ∉ H.live))
  | .close _ => isTrue trivial
  | .assign _ _ => isTrue trivial
  | .construct i j => inferInstanceAs (Decidable (j ≠ i))

/-- a descriptor is overwritten -/
def Overwrites (H : Heap ι ℤ) : Op ι → Prop
  | .create i _ => H.slot i ≠ none
  | .construct _ j => H.slot j ≠ none
  | _ => False

theorem sound_step {H : Heap ι ℤ} (h : H.Sound) (o : Op ι) (ho : Allowed H o) : (step H o).Sound := by
  cases o with
  | create i fd =>
    refine Heap.sound_store h i fun y hy => ?_
    unfold descriptor at hy
    split_ifs at hy
    · cases hy
    · rwa [← Option.mem_some.1 hy]
  | close i => exact Heap.sound_free h i
  | assign i j =>
    by_cases hij : j = i
    · rwa [step, if_pos hij]
    · rw [step, if_neg hij]
      exact Heap.sound_move (Heap.sound_free h j) hij
  | construct i j => exact Heap.sound_move h ho

theorem leaked_step (H : Heap ι ℤ) (o : Op ι) : (step H o).leaked = [] ↔ H.leaked = [] ∧ ¬ Overwrites H o := by
  cases o with
  | create i fd => simp [step, Heap.store, Overwrites]
  | close i => simp [step, Heap.free, Overwrites]
  | assign i j =>
    by_cases hij : j = i
    · simp [step, hij, Overwrites]
    · simp [step, hij, Heap.free, Heap.move, Overwrites]
  | construct i j => simp [step, Heap.move, Overwrites]

/-- the descriptors that are open are accounted for -/
structure Accounted (H : Heap ι ℤ) : Prop where
  closes : H.faults = []
  opened : ∀ fd, fd ∈ H.live ↔ (∃ i, H.slot i = some fd) ∨ fd ∈ H.leaked
  apart : ∀ i j fd, H.slot i = some fd → H.slot j = some fd → i = j

theorem accounted_run (ops : List (Op ι)) (h : Along step Allowed Heap.empty ops) :
    Accounted (exec step (Heap.empty : Heap ι ℤ) ops) := by
  have hsound : (exec step (Heap.empty : Heap ι ℤ) ops).Sound :=
    exec_inv (P := Heap.Sound) (fun H o hH ho => sound_step hH o ho) Heap.sound_empty ops h
  exact ⟨hsound.faultless, hsound.live_iff, fun _ _ _ => hsound.inj⟩

theorem leaked_run (ops : List (Op ι)) : (exec step (Heap.empty : Heap ι ℤ) ops).leaked = [] ↔
    Along step (fun H o => ¬ Overwrites H o) Heap.empty ops := by
  have hiff := exec_iff (I := fun _ => True) (P := fun H : Heap ι ℤ => H.leaked = []) (fun _ _ _ => trivial)
    (fun H o _ => leaked_step H o) (s := Heap.empty) trivial ops
  exact hiff.trans (and_iff_right rfl)

/-- **Sockets own their descriptors**, in every run of any number of them, wherever they are moved -/
theorem sockets_own (ops : List (Op ι)) (h : Along step Allowed Heap.empty ops) :
    let H : Heap ι ℤ := exec step Heap.empty ops
    Accounted H ∧ (H.leaked = [] ↔ Along step (fun H o => ¬ Overwrites H o) Heap.empty ops) := by
  intro H
  exact ⟨accounted_run ops h, leaked_run ops⟩

/-- a socket that is moved and created again, and moved back -/
theorem sockets_own_three :
    let H : Heap (Fin 3) ℤ := exec step Heap.empty [.create 0 3, .assign 0 1, .create 0 4, .assign 1 0, .construct 0 2]
    Accounted H ∧ (H.leaked = [] ↔ Along step (fun H o => ¬ Overwrites H o) Heap.empty
      [.create 0 3, .assign 0 1, .create 0 4, .assign 1 0, .construct (0 : Fin 3) 2]) :=
  sockets_own _ (by decide)

/-! ## RTP sessions -/

/-- `OpenSendSocket` and `OpenRecvSocket` up to `Create`, and the end of the socket -/
inductive SessionOp (ι : Type) where
  | openSocket (i : ι) (fd : ℤ)
  | destroy (i : ι)

/-- `make_unique` puts a new socket in place of the old one, which is destroyed -/
def SessionOp.ops : SessionOp ι → List (Op ι)
  | .openSocket i fd => [.close i, .create i fd]
  | .destroy i => [.close i]

theorem SessionOp.not_overwrites (H : Heap ι ℤ) (ops : List (SessionOp ι)) :
    Along step (fun H o => ¬ Overwrites H o) H (ops.flatMap SessionOp.ops) := by
  induction ops generalizing H with
  | nil => trivial
  | cons o ops ih =>
    rw [List.flatMap_cons, along_append]
    refine ⟨?_, ih _⟩
    cases o with
    | openSocket i fd => simp [SessionOp.ops, Along, Overwrites, step, Heap.free]
    | destroy i => simp [SessionOp.ops, Along, Overwrites]

/-- **Sessions leak no descriptor**: those open are those of their sockets, however often they are opened -/
theorem sessions_own (ops : List (SessionOp ι)) (h : Along step Allowed Heap.empty (ops.flatMap SessionOp.ops)) :
    let H : Heap ι ℤ := exec step Heap.empty (ops.flatMap SessionOp.ops)
    H.faults = [] ∧ (∀ fd, fd ∈ H.live ↔ ∃ i, H.slot i = some fd) ∧
      ∀ i j fd, H.slot i = some fd → H.slot j = some fd → i = j := by
  intro H
  have hown : Accounted H := accounted_run _ h
  have hnone : H.leaked = [] := (leaked_run _).2 (SessionOp.not_overwrites _ ops)
  refine ⟨hown.closes, fun fd => ?_, hown.apart⟩
  rw [hown.opened fd, show (exec step Heap.empty (ops.flatMap SessionOp.ops)).leaked = [] from hnone]
  exact or_iff_left List.not_mem_nil

end UdpSocket

end Rtcom
