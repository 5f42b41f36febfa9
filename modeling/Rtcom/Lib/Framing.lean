/-
Length-prefixed framing. A byte string (or any list) is cut into frames whose size is announced in a fixed number of
leading elements; what is left when the announced frame does not fit is the rest.

- `Framing`: how many leading elements announce the size, and the size they announce.
- `split`: the whole frames a list starts with, and the rest. `split_spec` says that these are the list, that the frames
  are whole and that no further frame fits; `split_frames` that any list of whole frames, followed by anything, is cut
  where it was put together.
- `Tiled`: a list that is exactly a sequence of whole frames. `tiled_append_eq`: a tiled part begins with the frame a
  list begins with.
- `split_induction`: the induction a walk from frame to frame follows.
-/
import Mathlib.Tactic

/-- frames of elements of ε: the first `header` elements of a frame announce its size -/
structure Framing (ε : Type) where
  header : ℕ
  size : List ε → ℕ
  header_pos : 0 < header
  header_le : ∀ bs, header ≤ size bs
  size_append : ∀ bs cs, header ≤ bs.length → size (bs ++ cs) = size bs

namespace Framing

variable {ε : Type} (F : Framing ε)

theorem size_pos (bs : List ε) : 0 < F.size bs := lt_of_lt_of_le F.header_pos (F.header_le bs)

/-- the list is one frame -/
def Whole (f : List ε) : Prop := F.size f = f.length

instance (f : List ε) : Decidable (F.Whole f) := inferInstanceAs (Decidable (F.size f = f.length))

/-- the whole frames at the front of a list, and the rest -/
def split (bs : List ε) : List (List ε) × List ε :=
  if F.size bs ≤ bs.length then
    (bs.take (F.size bs) :: (split (bs.drop (F.size bs))).1, (split (bs.drop (F.size bs))).2)
  else ([], bs)
termination_by bs.length
decreasing_by
  all_goals
    have := F.size_pos bs
    simp only [List.length_drop]
    omega

/-- a sequence of whole frames -/
def Tiled (bs : List ε) : Prop := ∃ fs : List (List ε), (∀ f ∈ fs, F.Whole f) ∧ bs = fs.flatten

variable {F}

theorem split_of_lt {bs : List ε} (h : bs.length < F.size bs) : F.split bs = ([], bs) := by
  rw [split, if_neg (by omega)]

theorem split_of_le {bs : List ε} (h : F.size bs ≤ bs.length) : F.split bs =
    (bs.take (F.size bs) :: (F.split (bs.drop (F.size bs))).1, (F.split (bs.drop (F.size bs))).2) := by
  rw [split, if_pos h]

@[simp] theorem split_nil : F.split [] = ([], []) := split_of_lt (F.size_pos [])

theorem Whole.size_append {f : List ε} (hf : F.Whole f) (bs : List ε) : F.size (f ++ bs) = f.length := by
  rw [F.size_append f bs (by rw [← hf]; exact F.header_le f), hf]

theorem whole_take {bs : List ε} (h : F.size bs ≤ bs.length) : F.Whole (bs.take (F.size bs)) := by
  have hlen : (bs.take (F.size bs)).length = F.size bs := by rw [List.length_take]; omega
  have := F.header_le bs
  rw [Whole, hlen, ← F.size_append _ (bs.drop (F.size bs)) (by omega), List.take_append_drop]

/-- a walk over a list: it stops where no whole frame follows, and goes on behind a frame -/
theorem split_induction {P : List ε → Prop} (rest : ∀ bs, bs.length < F.size bs → P bs)
    (frame : ∀ f bs, F.Whole f → P bs → P (f ++ bs)) (bs : List ε) : P bs := by
  induction h : bs.length using Nat.strongRecOn generalizing bs with
  | _ n ih =>
    by_cases hs : F.size bs ≤ bs.length
    · have := F.size_pos bs
      rw [← List.take_append_drop (F.size bs) bs]
      refine frame _ _ (whole_take hs) (ih (bs.drop (F.size bs)).length ?_ _ rfl)
      rw [List.length_drop]
      omega
    · exact rest bs (by omega)

theorem split_append {f : List ε} (hf : F.Whole f) (bs : List ε) :
    F.split (f ++ bs) = (f :: (F.split bs).1, (F.split bs).2) := by
  have hsize := hf.size_append bs
  rw [split_of_le (by rw [hsize, List.length_append]; omega), hsize, List.take_left, List.drop_left]

/-- whole frames are cut where they were put together -/
theorem split_frames {fs : List (List ε)} (hfs : ∀ f ∈ fs, F.Whole f) (bs : List ε) :
    F.split (fs.flatten ++ bs) = (fs ++ (F.split bs).1, (F.split bs).2) := by
  induction fs with
  | nil => simp
  | cons f fs ih =>
    rw [List.flatten_cons, List.append_assoc, split_append (hfs f List.mem_cons_self),
      ih fun g hg => hfs g (List.mem_cons_of_mem f hg), List.cons_append]

/-- the frames and the rest are the list, the frames are whole, and no further frame fits -/
theorem split_spec (bs : List ε) : (F.split bs).1.flatten ++ (F.split bs).2 = bs ∧
    (∀ f ∈ (F.split bs).1, F.Whole f) ∧ (F.split bs).2.length < F.size (F.split bs).2 := by
  induction bs using F.split_induction with
  | rest bs h => simp [split_of_lt h, h]
  | frame f bs hf ih =>
    obtain ⟨h1, h2, h3⟩ := ih
    rw [split_append hf]
    refine ⟨by rw [List.flatten_cons, List.append_assoc, h1], ?_, h3⟩
    intro g hg
    rcases List.mem_cons.1 hg with rfl | hg
    · exact hf
    · exact h2 g hg

theorem tiled_nil : F.Tiled [] := ⟨[], by simp, rfl⟩

theorem Tiled.frame_append {f bs : List ε} (hf : F.Whole f) (h : F.Tiled bs) : F.Tiled (f ++ bs) := by
  obtain ⟨fs, hfs, rfl⟩ := h
  refine ⟨f :: fs, ?_, rfl⟩
  intro g hg
  rcases List.mem_cons.1 hg with rfl | hg
  · exact hf
  · exact hfs g hg

/-- a tiled part in front of a list that starts with a frame: it is empty, or it starts with that frame -/
theorem tiled_append_eq {a b f bs : List ε} (ha : F.Tiled a) (hf : F.Whole f) (h : a ++ b = f ++ bs) :
    a = [] ∨ ∃ a', F.Tiled a' ∧ a = f ++ a' ∧ a' ++ b = bs := by
  obtain ⟨fs, hfs, rfl⟩ := ha
  rcases fs with _ | ⟨g, fs⟩
  · exact Or.inl rfl
  · right
    have hg : F.Whole g := hfs g List.mem_cons_self
    rw [List.flatten_cons, List.append_assoc] at h
    have hlen : g.length = f.length := by
      rw [← hg.size_append (fs.flatten ++ b), h, hf.size_append]
    obtain ⟨rfl, hrest⟩ := List.append_inj h hlen
    exact ⟨fs.flatten, ⟨fs, fun x hx => hfs x (List.mem_cons_of_mem g hx), rfl⟩, List.flatten_cons, hrest⟩

end Framing
