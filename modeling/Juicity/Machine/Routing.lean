import Mathlib.Data.List.Perm.Subperm

/-!
Contract: items dealt out to lanes. A dealing is the list of the items in the
order they came, each with the lane it was put on or with none when it was
dropped. The items of a lane are in their order, and no item is on two lanes.
-/

namespace Juicity.Machine

universe u v

variable {Lane : Type u} {Item : Type v} [DecidableEq Lane]

/-- The items on a lane. -/
def share (lane : Lane) (dealt : List (Option Lane × Item)) : List Item :=
  dealt.filterMap fun entry => if entry.1 = some lane then some entry.2 else none

@[simp] theorem share_nil (lane : Lane) : share lane ([] : List (Option Lane × Item)) = [] := rfl

theorem share_append (lane : Lane) (earlier later : List (Option Lane × Item)) :
    share lane (earlier ++ later) = share lane earlier ++ share lane later :=
  List.filterMap_append

@[simp] theorem share_dropped (lane : Lane) (dealt : List (Option Lane × Item)) (item : Item) :
    share lane (dealt ++ [(none, item)]) = share lane dealt := by
  simp [share]

@[simp] theorem share_self (lane : Lane) (dealt : List (Option Lane × Item)) (item : Item) :
    share lane (dealt ++ [(some lane, item)]) = share lane dealt ++ [item] := by
  simp [share]

theorem share_of_ne {lane other : Lane} (different : other ≠ lane)
    (dealt : List (Option Lane × Item)) (item : Item) :
    share lane (dealt ++ [(some other, item)]) = share lane dealt := by
  simp [share, different]

/-- A lane that got nothing. -/
theorem share_eq_nil {lane : Lane} {dealt : List (Option Lane × Item)}
    (unused : ∀ item, (some lane, item) ∉ dealt) : share lane dealt = [] := by
  apply List.filterMap_eq_nil_iff.mpr
  rintro ⟨given, item⟩ member
  apply if_neg
  rintro rfl
  exact unused item member

theorem share_cons_self {lane : Lane} {entry : Option Lane × Item} (here : entry.1 = some lane)
    (dealt : List (Option Lane × Item)) :
    share lane (entry :: dealt) = entry.2 :: share lane dealt :=
  List.filterMap_cons_some (if_pos here)

theorem share_cons_of_ne {lane : Lane} {entry : Option Lane × Item}
    (elsewhere : entry.1 ≠ some lane) (dealt : List (Option Lane × Item)) :
    share lane (entry :: dealt) = share lane dealt :=
  List.filterMap_cons_none (if_neg elsewhere)

/-- A lane has its items in the order they came. -/
theorem share_sublist (lane : Lane) (dealt : List (Option Lane × Item)) :
    (share lane dealt).Sublist (dealt.map Prod.snd) := by
  induction dealt with
  | nil => exact .slnil
  | cons entry dealt inductionHypothesis =>
      by_cases here : entry.1 = some lane
      · rw [share_cons_self here]
        exact inductionHypothesis.cons_cons entry.2
      · rw [share_cons_of_ne here]
        exact inductionHypothesis.cons entry.2

/-- Taking a lane out leaves the other ones as they are. -/
theorem share_filter_of_ne {lane other : Lane} (different : other ≠ lane)
    (dealt : List (Option Lane × Item)) :
    share other (dealt.filter fun entry => entry.1 ≠ some lane) = share other dealt := by
  induction dealt with
  | nil => rfl
  | cons entry dealt inductionHypothesis =>
      by_cases here : entry.1 = some lane
      · have elsewhere : entry.1 ≠ some other := by
          rw [here]
          exact fun same => different (Option.some.inj same).symm
        rw [List.filter_cons_of_neg (by simpa using here), share_cons_of_ne elsewhere]
        exact inductionHypothesis
      · rw [List.filter_cons_of_pos (by simpa using here)]
        by_cases there : entry.1 = some other
        · rw [share_cons_self there, share_cons_self there, inductionHypothesis]
        · rw [share_cons_of_ne there, share_cons_of_ne there, inductionHypothesis]

/-- The items come from the lane or from elsewhere. -/
theorem share_append_perm (lane : Lane) (dealt : List (Option Lane × Item)) :
    (share lane dealt ++ (dealt.filter fun entry => entry.1 ≠ some lane).map Prod.snd).Perm
      (dealt.map Prod.snd) := by
  induction dealt with
  | nil => exact .refl []
  | cons entry dealt inductionHypothesis =>
      by_cases here : entry.1 = some lane
      · rw [share_cons_self here, List.filter_cons_of_neg (by simpa using here)]
        exact inductionHypothesis.cons entry.2
      · rw [share_cons_of_ne here, List.filter_cons_of_pos (by simpa using here)]
        exact List.perm_middle.trans (inductionHypothesis.cons entry.2)

/-- No item is on two lanes: what different lanes have is at most what came. -/
theorem shares_subperm {lanes : List Lane} (different : lanes.Nodup)
    (dealt : List (Option Lane × Item)) :
    List.Subperm (lanes.map fun lane => share lane dealt).flatten (dealt.map Prod.snd) := by
  induction lanes generalizing dealt with
  | nil => exact List.nil_subperm
  | cons lane lanes inductionHypothesis =>
      obtain ⟨fresh, others⟩ := List.nodup_cons.mp different
      have rest := inductionHypothesis others (dealt.filter fun entry => entry.1 ≠ some lane)
      have same : (lanes.map fun other =>
          share other (dealt.filter fun entry => entry.1 ≠ some lane)) =
            lanes.map fun other => share other dealt := by
        apply List.map_congr_left
        intro other member
        apply share_filter_of_ne
        rintro rfl
        exact fresh member
      rw [same] at rest
      rw [List.map_cons, List.flatten_cons]
      have apart := (List.subperm_append_left (share lane dealt)).mpr rest
      exact apart.trans (share_append_perm lane dealt).subperm

end Juicity.Machine
