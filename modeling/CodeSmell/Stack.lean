/-
Stacks of pending work.

The top of a stack is its first member. What a loop finds to do next is put on
the stack one by one, the last of it first, so that the first of it lies on top
and is taken before everything that was pending already.
-/
set_option autoImplicit false

namespace CodeSmell.Stack

variable {α : Type}

/-- Puts one member on a stack. -/
def push (stack : List α) (x : α) : List α := x :: stack

/-- Puts the members of a list on a stack, the last one first. -/
def pushAll (xs stack : List α) : List α := xs.reverse.foldl push stack

/-- What was put on a stack comes off in its own order, before what was there. -/
theorem pushAll_eq (xs stack : List α) : pushAll xs stack = xs ++ stack := by
  unfold pushAll
  rw [List.foldl_reverse]
  induction xs with
  | nil => rfl
  | cons x rest ih => rw [List.foldr_cons, ih, List.cons_append, push]

end CodeSmell.Stack
