/-
Networks of nodes that exchange packets. A packet in flight may be delivered at any time and in any order, it may be
lost and it may be doubled; whoever is outside may send packets too. A node answers a packet with packets, and sends
some on its own.

A net keeps the books of its run: the packets its nodes sent, those delivered and lost, and those that came from
elsewhere (doubled or from outside).

- `conserved`: a packet that was in flight, was sent or came from elsewhere is in flight, was delivered or was lost.
- `mem_sent`: where a packet that was sent comes from; `delivered_from`: where one that was delivered comes from, and
  `delivered_sent` if nobody is outside.
- `network_product`: a network is a product of its nodes, each of which is given what is delivered to it (`arrivals`).
- `exec_given`: what every packet delivered and every action preserves of a node and of what it was given, a run
  preserves of all nodes; `exec_node`: the same of the node alone.
- `sent_count`: where a node answers a packet with a number of packets of a kind that depends on the packet alone, the
  packets of this kind that were sent are the sum over the packets delivered.
-/
import Mathlib.Tactic
import Rtcom.Lib.Interleave
import Rtcom.Lib.Runs

namespace Network

open Runs

structure Packet (ι μ : Type) where
  source : ι
  target : ι
  message : μ
deriving DecidableEq, Repr

/-- what a node makes of a packet and what it does on its own; ε is what it gets with a packet from its surroundings -/
structure Protocol (ι σ μ ε α : Type) where
  receive : ι → ε → Packet ι μ → σ → σ × List (Packet ι μ)
  act : ι → α → σ → σ × List (Packet ι μ)

/-- the nodes and what is in flight, with the books of the run -/
structure Net (ι σ μ : Type) where
  node : ι → σ
  flight : Multiset (Packet ι μ)
  sent : Multiset (Packet ι μ)
  delivered : Multiset (Packet ι μ)
  lost : Multiset (Packet ι μ)
  added : Multiset (Packet ι μ)

inductive Event (ι μ ε α : Type) where
  | deliver (p : Packet ι μ) (e : ε)
  | lose (p : Packet ι μ)
  | double (p : Packet ι μ)
  | inject (p : Packet ι μ)
  | act (i : ι) (a : α)

variable {ι σ μ ε α : Type}

def start (node : ι → σ) (flight : Multiset (Packet ι μ)) : Net ι σ μ := ⟨node, flight, 0, 0, 0, 0⟩

variable [DecidableEq ι] [DecidableEq μ] (N : Protocol ι σ μ ε α)

/-- only a packet in flight is delivered, lost or doubled -/
def step (net : Net ι σ μ) : Event ι μ ε α → Net ι σ μ
  | .deliver p e =>
    if p ∈ net.flight then
      let (s, out) := N.receive p.target e p (net.node p.target)
      { net with
        node := Function.update net.node p.target s
        flight := net.flight.erase p + out
        sent := net.sent + out
        delivered := p ::ₘ net.delivered }
    else net
  | .lose p => if p ∈ net.flight then { net with flight := net.flight.erase p, lost := p ::ₘ net.lost } else net
  | .double p => if p ∈ net.flight then { net with flight := p ::ₘ net.flight, added := p ::ₘ net.added } else net
  | .inject p => { net with flight := p ::ₘ net.flight, added := p ::ₘ net.added }
  | .act i a =>
    let (s, out) := N.act i a (net.node i)
    { net with node := Function.update net.node i s, flight := net.flight + out, sent := net.sent + out }

/-! ## Conservation -/

/-- the books are in balance: F was in flight at the start -/
def Balanced (F : Multiset (Packet ι μ)) (net : Net ι σ μ) : Prop :=
  net.flight + net.delivered + net.lost = F + net.sent + net.added

variable {N} {F : Multiset (Packet ι μ)} {net : Net ι σ μ}

/-- a packet is taken out of the flight and entered somewhere else -/
theorem erase_add_cons {p : Packet ι μ} (hp : p ∈ net.flight) (M : Multiset (Packet ι μ)) :
    net.flight.erase p + p ::ₘ M = net.flight + M := by
  rw [Multiset.add_cons, ← Multiset.cons_add, Multiset.cons_erase hp]

theorem step_balanced (h : Balanced F net) (e : Event ι μ ε α) : Balanced F (step N net e) := by
  unfold Balanced at h ⊢
  cases e with
  | deliver p e =>
    by_cases hp : p ∈ net.flight
    · rw [step, if_pos hp]
      generalize N.receive p.target e p (net.node p.target) = r
      obtain ⟨s, out⟩ := r
      calc net.flight.erase p + out + p ::ₘ net.delivered + net.lost
          = net.flight.erase p + p ::ₘ net.delivered + net.lost + out := by abel
        _ = net.flight + net.delivered + net.lost + out := by rw [erase_add_cons hp]
        _ = F + (net.sent + out) + net.added := by rw [h]; abel
    · rwa [step, if_neg hp]
  | lose p =>
    by_cases hp : p ∈ net.flight
    · rw [step, if_pos hp]
      calc net.flight.erase p + net.delivered + p ::ₘ net.lost
          = net.flight.erase p + p ::ₘ net.lost + net.delivered := by abel
        _ = net.flight + net.delivered + net.lost := by rw [erase_add_cons hp]; abel
        _ = F + net.sent + net.added := h
    · rwa [step, if_neg hp]
  | double p =>
    by_cases hp : p ∈ net.flight
    · rw [step, if_pos hp]
      simp only [Multiset.cons_add, Multiset.add_cons, h]
    · rwa [step, if_neg hp]
  | inject p => simp only [step, Multiset.cons_add, Multiset.add_cons, h]
  | act i a =>
    simp only [step]
    calc net.flight + (N.act i a (net.node i)).2 + net.delivered + net.lost
        = net.flight + net.delivered + net.lost + (N.act i a (net.node i)).2 := by abel
      _ = F + (net.sent + (N.act i a (net.node i)).2) + net.added := by rw [h]; abel

/-- **Conservation**: nothing comes from nowhere and nothing vanishes -/
theorem conserved (node : ι → σ) (F : Multiset (Packet ι μ)) (es : List (Event ι μ ε α)) :
    let net := exec (step N) (start node F) es
    net.flight + net.delivered + net.lost = F + net.sent + net.added :=
  exec_preserves (P := Balanced F) (fun _ e h => step_balanced h e) (by simp [Balanced, start]) es

/-! ## Where packets come from -/

variable (N) in
/-- what a step puts on its way -/
def emits (net : Net ι σ μ) : Event ι μ ε α → List (Packet ι μ)
  | .deliver p e => if p ∈ net.flight then (N.receive p.target e p (net.node p.target)).2 else []
  | .act i a => (N.act i a (net.node i)).2
  | _ => []

theorem sent_step (net : Net ι σ μ) (e : Event ι μ ε α) : (step N net e).sent = net.sent + emits N net e := by
  cases e with
  | deliver p e =>
    simp only [step, emits]
    split_ifs
    · rfl
    · exact (add_zero _).symm
  | lose p | double p =>
    simp only [step, emits]
    split_ifs <;> exact (add_zero _).symm
  | inject p => exact (add_zero _).symm
  | act i a => rfl

/-- a packet was sent by some step -/
theorem mem_sent {node : ι → σ} {es : List (Event ι μ ε α)} {p : Packet ι μ}
    (h : p ∈ (exec (step N) (start node F) es).sent) :
    ∃ before e after, es = before ++ e :: after ∧ p ∈ emits N (exec (step N) (start node F) before) e := by
  induction es using List.reverseRecOn with
  | nil => exact absurd h (Multiset.notMem_zero p)
  | append_singleton es e ih =>
    rw [exec_append] at h
    have hlast : p ∈ (step N (exec (step N) (start node F) es) e).sent := h
    rw [sent_step, Multiset.mem_add] at hlast
    rcases hlast with hsent | hnew
    · obtain ⟨before, e', after, rfl, hp⟩ := ih hsent
      exact ⟨before, e', after ++ [e], by simp, hp⟩
    · exact ⟨es, e, [], rfl, Multiset.mem_coe.1 hnew⟩

/-- what is delivered was sent, was on its way at the start, or came from outside -/
theorem delivered_from (node : ι → σ) (F : Multiset (Packet ι μ)) (es : List (Event ι μ ε α)) :
    ∀ p ∈ (exec (step N) (start node F) es).delivered,
      p ∈ (exec (step N) (start node F) es).sent ∨ p ∈ F ∨ Event.inject p ∈ es := by
  have hrun : (∀ p ∈ (exec (step N) (start node F) es).flight,
        p ∈ (exec (step N) (start node F) es).sent ∨ p ∈ F ∨ Event.inject p ∈ es) ∧
      ∀ p ∈ (exec (step N) (start node F) es).delivered,
        p ∈ (exec (step N) (start node F) es).sent ∨ p ∈ F ∨ Event.inject p ∈ es := by
    induction es using List.reverseRecOn with
    | nil => exact ⟨fun p hp => Or.inr (Or.inl hp), fun p hp => absurd hp (Multiset.notMem_zero p)⟩
    | append_singleton es e ih =>
      have hlast : exec (step N) (start node F) (es ++ [e]) = step N (exec (step N) (start node F) es) e :=
        exec_append _ es [e]
      rw [hlast, sent_step]
      set net := exec (step N) (start node F) es
      have hold : ∀ q, q ∈ net.sent ∨ q ∈ F ∨ Event.inject q ∈ es →
          q ∈ net.sent + emits N net e ∨ q ∈ F ∨ Event.inject q ∈ es ++ [e] := by
        intro q hq
        exact hq.imp (fun h => Multiset.mem_add.2 (Or.inl h)) (Or.imp_right fun h => List.mem_append_left _ h)
      have hflight := fun q hq => hold q (ih.1 q hq)
      have hdelivered := fun q hq => hold q (ih.2 q hq)
      have hnew : ∀ q ∈ emits N net e, q ∈ net.sent + emits N net e := fun q hq =>
        Multiset.mem_add.2 (Or.inr (Multiset.mem_coe.2 hq))
      cases e with
      | deliver p e =>
        by_cases hp : p ∈ net.flight
        · simp only [emits, step, if_pos hp] at hflight hnew hdelivered ⊢
          refine ⟨fun q hq => ?_, fun q hq => ?_⟩
          · rcases Multiset.mem_add.1 hq with hq | hq
            · exact hflight q (Multiset.mem_of_mem_erase hq)
            · exact Or.inl (hnew q (Multiset.mem_coe.1 hq))
          · rcases Multiset.mem_cons.1 hq with rfl | hq
            · exact hflight q hp
            · exact hdelivered q hq
        · rw [step, if_neg hp]
          exact ⟨hflight, hdelivered⟩
      | lose p =>
        by_cases hp : p ∈ net.flight
        · rw [step, if_pos hp]
          exact ⟨fun q hq => hflight q (Multiset.mem_of_mem_erase hq), hdelivered⟩
        · rw [step, if_neg hp]
          exact ⟨hflight, hdelivered⟩
      | double p =>
        by_cases hp : p ∈ net.flight
        · rw [step, if_pos hp]
          refine ⟨fun q hq => ?_, hdelivered⟩
          rcases Multiset.mem_cons.1 hq with rfl | hq
          · exact hflight q hp
          · exact hflight q hq
        · rw [step, if_neg hp]
          exact ⟨hflight, hdelivered⟩
      | inject p =>
        refine ⟨fun q hq => ?_, hdelivered⟩
        rcases Multiset.mem_cons.1 hq with rfl | hq
        · exact Or.inr (Or.inr (List.mem_append_right es List.mem_cons_self))
        · exact hflight q hq
      | act i a =>
        refine ⟨fun q hq => ?_, hdelivered⟩
        rcases Multiset.mem_add.1 hq with hq | hq
        · exact hflight q hq
        · exact Or.inl (hnew q (Multiset.mem_coe.1 hq))
  exact hrun.2

/-- without anybody outside, all packets were sent -/
theorem delivered_sent (node : ι → σ) (es : List (Event ι μ ε α)) (hin : ∀ p, Event.inject p ∉ es) :
    ∀ p ∈ (exec (step N) (start node 0) es).delivered, p ∈ (exec (step N) (start node 0) es).sent := by
  intro p hp
  rcases delivered_from node 0 es p hp with hsent | hstart | houtside
  · exact hsent
  · exact absurd hstart (Multiset.notMem_zero p)
  · exact absurd houtside (hin p)

/-! ## Nodes -/

/-- the packets delivered so far are all that a step adds to -/
theorem delivered_mono (net : Net ι σ μ) (e : Event ι μ ε α) : net.delivered ≤ (step N net e).delivered := by
  cases e with
  | deliver p e =>
    simp only [step]
    split_ifs
    · exact Multiset.le_cons_self _ _
    · exact le_rfl
  | lose p | double p =>
    simp only [step]
    split_ifs <;> exact le_rfl
  | inject p | act i a => exact le_rfl

/-- what a step gives a node: a packet, with what it gets with it, or an action of its own -/
def given (net : Net ι σ μ) (i : ι) : Event ι μ ε α → List ((ε × Packet ι μ) ⊕ α)
  | .deliver p e => if p ∈ net.flight ∧ p.target = i then [.inl (e, p)] else []
  | .act j a => if j = i then [.inr a] else []
  | _ => []

variable (N) in
/-- a node alone -/
def react (i : ι) (s : σ) : (ε × Packet ι μ) ⊕ α → σ
  | .inl (e, p) => (N.receive i e p s).1
  | .inr a => (N.act i a s).1

/-- **A network is a product of its nodes** -/
theorem network_product : Interleave.Product (step N) given (fun i (net : Net ι σ μ) => net.node i) (react N) := by
  intro net e i
  cases e with
  | deliver p e =>
    by_cases hp : p ∈ net.flight
    · by_cases hi : p.target = i
      · subst hi
        simp [step, given, hp, exec, react]
      · simp [step, given, hp, hi, exec, Function.update_of_ne (Ne.symm hi)]
    · simp [step, given, hp, exec]
  | lose p | double p =>
    simp only [step, given, exec, List.foldl_nil]
    split_ifs <;> rfl
  | inject p => rfl
  | act j a =>
    by_cases hi : j = i
    · subst hi
      simp [step, given, exec, react]
    · simp [step, given, hi, exec, Function.update_of_ne (Ne.symm hi)]

/-- the packets among what a node was given -/
def packets (bs : List ((ε × Packet ι μ) ⊕ α)) : List (Packet ι μ) :=
  bs.filterMap fun
    | .inl (_, p) => some p
    | .inr _ => none

variable (N) in
/-- the packets delivered to a node in a run, in order -/
def arrivals (i : ι) (net : Net ι σ μ) (es : List (Event ι μ ε α)) : List (Packet ι μ) :=
  packets (Interleave.trace (step N) given i net es)

/-- the packets delivered to a node -/
def Net.arrived (net : Net ι σ μ) (i : ι) : Multiset (Packet ι μ) := net.delivered.filter fun p => p.target = i

theorem arrived_step (net : Net ι σ μ) (i : ι) (e : Event ι μ ε α) :
    (step N net e).arrived i = net.arrived i + (packets (given net i e) : Multiset (Packet ι μ)) := by
  cases e with
  | deliver p e =>
    by_cases hp : p ∈ net.flight
    · by_cases hi : p.target = i <;> simp [step, given, packets, Net.arrived, hp, hi, add_comm]
    · simp [step, given, packets, hp]
  | lose p | double p =>
    simp only [step, given, packets, List.filterMap_nil, Multiset.coe_nil, add_zero]
    split_ifs <;> rfl
  | inject p => exact (add_zero _).symm
  | act j a =>
    simp only [step, given]
    split_ifs <;> exact (add_zero _).symm

/-- the packets delivered to a node are those that were, and those that arrive -/
theorem arrived_exec (net : Net ι σ μ) (i : ι) (es : List (Event ι μ ε α)) :
    (exec (step N) net es).arrived i = net.arrived i + (arrivals N i net es : Multiset (Packet ι μ)) := by
  induction es generalizing net with
  | nil => exact (add_zero _).symm
  | cons e es ih =>
    calc (exec (step N) (step N net e) es).arrived i
        = (step N net e).arrived i + (arrivals N i (step N net e) es : Multiset (Packet ι μ)) := ih _
      _ = net.arrived i + ((packets (given net i e) : Multiset (Packet ι μ)) + arrivals N i (step N net e) es) := by
        rw [arrived_step, add_assoc]
      _ = net.arrived i + (arrivals N i net (e :: es) : Multiset (Packet ι μ)) := by
        rw [Multiset.coe_add, arrivals, arrivals, packets, packets, ← List.filterMap_append]
        rfl

/-- the packets delivered to a node have been delivered -/
theorem mem_arrivals {i : ι} {net : Net ι σ μ} {es : List (Event ι μ ε α)} {p : Packet ι μ}
    (h : p ∈ arrivals N i net es) : p ∈ (exec (step N) net es).delivered := by
  have harrived : p ∈ (exec (step N) net es).arrived i := by
    rw [arrived_exec]
    exact Multiset.mem_add.2 (Or.inr h)
  exact Multiset.mem_of_mem_filter harrived

/-- packets are given to the node they are for -/
theorem target_of_given (net : Net ι σ μ) (i : ι) (e : Event ι μ ε α) :
    ∀ b ∈ given net i e, ∀ x p, b = .inl (x, p) → p.target = i := by
  cases e with
  | deliver q y =>
    rintro b hb x p rfl
    by_cases hq : q ∈ net.flight ∧ q.target = i
    · rw [given, if_pos hq, List.mem_singleton] at hb
      obtain ⟨rfl, rfl⟩ := Prod.mk.inj (Sum.inl.inj hb)
      exact hq.2
    · rw [given, if_neg hq] at hb
      cases hb
  | act j a =>
    rintro b hb x p rfl
    rw [given] at hb
    split_ifs at hb <;> simp at hb
  | lose q | double q | inject q => exact fun b hb => absurd hb List.not_mem_nil

/-- **What nodes keep**: J, of a node and of what it was given, is kept by every packet that is delivered, where it
meets A, and by every action -/
theorem exec_given {J : ι → List ((ε × Packet ι μ) ⊕ α) → σ → Prop} {A : Packet ι μ → Prop}
    (hreceive : ∀ e p bs s, A p → J p.target bs s → J p.target (bs ++ [.inl (e, p)]) (N.receive p.target e p s).1)
    (hact : ∀ i a bs s, J i bs s → J i (bs ++ [.inr a]) (N.act i a s).1) {node : ι → σ} (h : ∀ i, J i [] (node i))
    (F : Multiset (Packet ι μ)) (es : List (Event ι μ ε α))
    (hA : ∀ p ∈ (exec (step N) (start node F) es).delivered, A p) (i : ι) :
    J i (Interleave.trace (step N) given i (start node F) es) ((exec (step N) (start node F) es).node i) := by
  have hgiven : ∀ b ∈ Interleave.trace (step N) given i (start node F) es, ∀ x p, b = .inl (x, p) →
      p.target = i ∧ A p := by
    rintro b hb x p rfl
    refine ⟨Interleave.forall_trace (fun net e => target_of_given net i e) _ es _ hb x p rfl, hA p ?_⟩
    exact mem_arrivals (List.mem_filterMap.2 ⟨_, hb, rfl⟩)
  rw [(network_product (N := N)).view_exec i (start node F) es]
  generalize Interleave.trace (step N) given i (start node F) es = bs at hgiven
  induction bs using List.reverseRecOn with
  | nil => exact h i
  | append_singleton bs b ih =>
    have hlast := ih fun c hc => hgiven c (List.mem_append_left _ hc)
    rw [exec_append]
    rcases b with ⟨x, p⟩ | a
    · obtain ⟨rfl, hp⟩ := hgiven _ (List.mem_append_right _ (List.mem_singleton_self _)) x p rfl
      exact hreceive x p bs _ hp hlast
    · exact hact i a bs _ hlast

/-- and of a node alone -/
theorem exec_node {I : ι → σ → Prop} {A : Packet ι μ → Prop}
    (hreceive : ∀ e p s, A p → I p.target s → I p.target (N.receive p.target e p s).1)
    (hact : ∀ i a s, I i s → I i (N.act i a s).1) {node : ι → σ} (h : ∀ i, I i (node i)) (F : Multiset (Packet ι μ))
    (es : List (Event ι μ ε α)) (hA : ∀ p ∈ (exec (step N) (start node F) es).delivered, A p) (i : ι) :
    I i ((exec (step N) (start node F) es).node i) :=
  exec_given (J := fun i _ s => I i s) (fun e p _ s => hreceive e p s) (fun i a _ s => hact i a s) h F es hA i

/-! ## Counting -/

/-- **Packets of a kind**: where nodes in I answer a packet p with w p packets of the kind and send none on their own,
the packets of the kind that were sent are the sum over the packets delivered -/
theorem sent_count {P : Packet ι μ → Prop} [DecidablePred P] {I : ι → σ → Prop} {A : Packet ι μ → Prop}
    {w : Packet ι μ → ℕ} (hreceive : ∀ e p s, A p → I p.target s → I p.target (N.receive p.target e p s).1)
    (hact : ∀ i a s, I i s → I i (N.act i a s).1)
    (hw : ∀ e p s, A p → I p.target s → ((N.receive p.target e p s).2 : Multiset _).countP P = w p)
    (hnone : ∀ i a s, I i s → ((N.act i a s).2 : Multiset _).countP P = 0) {node : ι → σ} (h : ∀ i, I i (node i))
    (F : Multiset (Packet ι μ)) (es : List (Event ι μ ε α))
    (hA : ∀ p ∈ (exec (step N) (start node F) es).delivered, A p) :
    (exec (step N) (start node F) es).sent.countP P = ((exec (step N) (start node F) es).delivered.map w).sum := by
  induction es using List.reverseRecOn with
  | nil => simp [exec, start]
  | append_singleton es e ih =>
    have hlast : exec (step N) (start node F) (es ++ [e]) = step N (exec (step N) (start node F) es) e :=
      exec_append _ es [e]
    rw [hlast] at hA ⊢
    set net := exec (step N) (start node F) es with hnet
    have hbefore : ∀ p ∈ net.delivered, A p := fun p hp => hA p (Multiset.mem_of_le (delivered_mono net e) hp)
    have hnode : ∀ i, I i (net.node i) := exec_node hreceive hact h F es hbefore
    have hsum := ih hbefore
    cases e with
    | deliver p e =>
      by_cases hp : p ∈ net.flight
      · simp only [step, if_pos hp] at hA ⊢
        rw [Multiset.countP_add, hsum, Multiset.map_cons, Multiset.sum_cons,
          hw e p _ (hA p (Multiset.mem_cons_self p _)) (hnode p.target), add_comm]
      · rw [step, if_neg hp]
        exact hsum
    | lose p | double p =>
      simp only [step]
      split_ifs <;> exact hsum
    | inject p => exact hsum
    | act i a =>
      simp only [step]
      rw [Multiset.countP_add, hsum, hnone i a _ (hnode i), add_zero]

end Network
