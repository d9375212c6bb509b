-- Sorting by insertion. Equal items keep their order, and a list that is
-- sorted already takes one pass.
namespace List

/-- The item put in front of the first one that it is not greater than. -/
def insertInto (le : α → α → Bool) (a : α) : List α → List α
  | [] => [a]
  | b :: bs => if le a b then a :: b :: bs else b :: insertInto le a bs

/-- The items in ascending order. -/
def sortedBy (le : α → α → Bool) (items : List α) : List α := items.foldr (insertInto le) []

theorem insertInto_perm (le : α → α → Bool) (a : α) (items : List α) :
    (insertInto le a items).Perm (a :: items) := by
  induction items with
  | nil => exact Perm.refl _
  | cons b bs ih =>
    unfold insertInto
    split
    · exact Perm.refl _
    · exact (ih.cons b).trans (Perm.swap a b bs)

theorem sortedBy_perm (le : α → α → Bool) (items : List α) : (sortedBy le items).Perm items := by
  induction items with
  | nil => exact Perm.refl _
  | cons a as ih => exact (insertInto_perm le a _).trans (ih.cons a)

end List
