/-!
# Kinds of failures

A kind is known by its name and its home, and may belong to several wider kinds at once.
`Kind.isA` decides whether a kind lies within another; `isA_iff_within` says that this is the
reflexive and transitive closure of belonging.
-/

namespace Reattempt

/-- A kind of failure: its name, the place that defines it (empty for the kinds that are always
there), and the kinds it belongs to directly. -/
structure Kind where
  name : String
  home : String
  parents : List Kind

namespace Kind

def same (k target : Kind) : Bool :=
  k.name == target.name && k.home == target.home

mutual

def reaches (target : Kind) : Kind → Bool
  | ⟨name, home, parents⟩ => same ⟨name, home, []⟩ target || anyReaches target parents

def anyReaches (target : Kind) : List Kind → Bool
  | [] => false
  | k :: ks => reaches target k || anyReaches target ks

end

def isA (k target : Kind) : Bool := reaches target k

/-- A kind lies within another when it is that kind or one of its parents lies within it. -/
inductive Within (target : Kind) : Kind → Prop
  | self {k : Kind} : same k target = true → Within target k
  | parent {k p : Kind} : p ∈ k.parents → Within target p → Within target k

theorem anyReaches_eq_true_iff (target : Kind) (ks : List Kind) :
    anyReaches target ks = true ↔ ∃ k ∈ ks, k.isA target = true := by
  induction ks with
  | nil => simp [anyReaches]
  | cons k ks ih => simp [anyReaches, ih, isA]

theorem isA_eq (k target : Kind) :
    k.isA target = (same k target || anyReaches target k.parents) := by
  cases k
  rw [isA, reaches]
  rfl

theorem within_of_isA (target : Kind) (k : Kind) (h : k.isA target = true) : Within target k := by
  rw [isA_eq, Bool.or_eq_true, anyReaches_eq_true_iff] at h
  rcases h with h | ⟨p, hp, h⟩
  · exact .self h
  · have : sizeOf p < sizeOf k := by
      cases k
      exact Nat.lt_trans (List.sizeOf_lt_of_mem hp) (by simp only [Kind.mk.sizeOf_spec]; omega)
    exact .parent hp (within_of_isA target p h)
termination_by sizeOf k

theorem isA_iff_within (k target : Kind) : k.isA target = true ↔ Within target k := by
  refine ⟨within_of_isA target k, fun h => ?_⟩
  induction h with
  | self h => rw [isA_eq, h, Bool.true_or]
  | parent hp _ ih =>
    rw [isA_eq, Bool.or_eq_true, anyReaches_eq_true_iff]
    exact .inr ⟨_, hp, ih⟩

def qualifiedName (k : Kind) : String :=
  if k.home.isEmpty then k.name else k.home ++ "." ++ k.name

def quote (k : Kind) : String := "<class '" ++ k.qualifiedName ++ "'>"

end Kind

end Reattempt
