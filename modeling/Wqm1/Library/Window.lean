import Mathlib

/-! A bounded queue of timed items that is pruned from its old end. -/

set_option autoImplicit false

namespace Wqm1.Library.Window

section Bounded

variable {β : Type}

/-- Append to a queue of at most `limit` items; a full queue drops its oldest. -/
def appendBounded (limit : Nat) (items : List β) (item : β) : List β :=
  if items.length < limit then items ++ [item] else items.tail ++ [item]

/-- The newest items, as many as the queue can hold. -/
def recent (limit : Nat) (items : List β) : List β := items.drop (items.length - limit)

theorem appendBounded_of_room {limit : Nat} {items : List β} (item : β) (room : items.length < limit) :
    appendBounded limit items item = items ++ [item] := if_pos room

theorem appendBounded_of_full {limit : Nat} {items : List β} (item : β) (full : ¬ items.length < limit) :
    appendBounded limit items item = items.tail ++ [item] := if_neg full

theorem appendBounded_sublist (limit : Nat) (items : List β) (item : β) :
    (appendBounded limit items item).Sublist (items ++ [item]) := by
  unfold appendBounded
  split
  · exact List.Sublist.refl _
  · exact (List.tail_sublist items).append_right [item]

theorem getLast_appendBounded (limit : Nat) (items : List β) (item : β) :
    ∃ kept, appendBounded limit items item = kept ++ [item] := by
  unfold appendBounded
  split
  · exact ⟨_, rfl⟩
  · exact ⟨_, rfl⟩

theorem recent_append {limit : Nat} (positive : 0 < limit) (items : List β) (item : β) :
    recent limit (items ++ [item]) = appendBounded limit (recent limit items) item := by
  unfold recent
  by_cases few : items.length < limit
  · have longer : (items ++ [item]).length - limit = 0 := by simp; omega
    rw [longer, Nat.sub_eq_zero_of_le (Nat.le_of_lt few), List.drop_zero, List.drop_zero, appendBounded_of_room item few]
  · have full : ¬ (items.drop (items.length - limit)).length < limit := by simp; omega
    have one : (items ++ [item]).length - limit = items.length - limit + 1 := by simp; omega
    rw [appendBounded_of_full item full, one, List.drop_append_of_le_length (by omega), List.tail_drop]

theorem length_recent (limit : Nat) (items : List β) : (recent limit items).length ≤ limit := by
  unfold recent
  rw [List.length_drop]
  omega

theorem recent_sublist (limit : Nat) (items : List β) : (recent limit items).Sublist items :=
  List.drop_sublist _ _

end Bounded

variable {α β : Type} [LinearOrder α] {time : β → α}

/-- The queue without the items older than `bound` at its old end. -/
def prune (time : β → α) (bound : α) (items : List β) : List β :=
  items.dropWhile fun item => decide (time item < bound)

def since (time : β → α) (bound : α) (items : List β) : List β :=
  items.filter fun item => decide (bound ≤ time item)

theorem mem_since {bound : α} {items : List β} {item : β} :
    item ∈ since time bound items ↔ item ∈ items ∧ bound ≤ time item := by
  simp [since]

theorem since_append (bound : α) (first second : List β) :
    since time bound (first ++ second) = since time bound first ++ since time bound second :=
  List.filter_append ..

theorem since_cons_of_old {bound : α} {item : β} (rest : List β) (old : time item < bound) :
    since time bound (item :: rest) = since time bound rest := by
  simp [since, old]

theorem since_since {lower upper : α} (tighter : lower ≤ upper) (items : List β) :
    since time upper (since time lower items) = since time upper items := by
  unfold since
  rw [List.filter_filter]
  congr 1
  funext item
  by_cases young : upper ≤ time item
  · simp [young, tighter.trans young]
  · simp [young]

variable {items : List β} (sorted : items.Pairwise fun left right => time left ≤ time right)

include sorted

theorem since_of_first_young {bound : α} {first : β} (head : items.head? = some first)
    (young : bound ≤ time first) : since time bound items = items := by
  cases items with
  | nil => rfl
  | cons item rest =>
    cases head
    apply List.filter_eq_self.mpr
    intro later member
    rw [decide_eq_true_eq]
    cases member with
    | head => exact young
    | tail _ after => exact young.trans ((List.pairwise_cons.mp sorted).1 later after)

theorem prune_eq_since (bound : α) : prune time bound items = since time bound items := by
  induction items with
  | nil => rfl
  | cons item rest ih =>
    by_cases old : time item < bound
    · rw [since_cons_of_old rest old, ← ih (List.pairwise_cons.mp sorted).2]
      simp [prune, old]
    · rw [since_of_first_young sorted rfl (not_lt.mp old)]
      simp [prune, old]

/-- Items that were pruned before do not matter to a later, tighter pruning. -/
theorem since_appendBounded_since {limit : Nat} {lower upper : α} (tighter : lower ≤ upper) (item : β)
    (bounded : items.length ≤ limit) :
    since time upper (appendBounded limit (since time lower items) item) =
      since time upper (appendBounded limit items item) := by
  cases items with
  | nil => rfl
  | cons first rest =>
    by_cases old : time first < lower
    · rw [since_cons_of_old rest old]
      have fewer : (since time lower rest).length < limit :=
        Nat.lt_of_le_of_lt (List.length_filter_le ..) bounded
      rw [appendBounded_of_room item fewer, since_append, since_since tighter, ← since_append]
      by_cases room : (first :: rest).length < limit
      · rw [appendBounded_of_room item room, List.cons_append,
          since_cons_of_old _ (lt_of_lt_of_le old tighter)]
      · rw [appendBounded_of_full item room, List.tail_cons]
    · rw [since_of_first_young sorted rfl (not_lt.mp old)]

end Wqm1.Library.Window
