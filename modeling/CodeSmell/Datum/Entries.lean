/-
The keys of maps.

Two values are one key if they are equal in the sense of keys: numbers by their
value, whether written as truth values, integers or fractions; grades and variants
by their text; tuples part by part. A map keeps the first form of a key and the
last value put under it. What can change after it was made is no key.
-/
import CodeSmell.Datum.Basic

set_option autoImplicit false

namespace CodeSmell.Datum

/-- Something that is no key, by the name of its kind. -/
structure NotAKey where
  kind : String
  deriving DecidableEq, Repr

/-- The wording of the error. -/
def NotAKey.message (e : NotAKey) : String := "unhashable type: " ++ Text.quoted e.kind

/-- The whole number that a value counts as. -/
def wholeNumber? : Datum → Option Int
  | bool b => some (if b then 1 else 0)
  | int n => some n
  | status s => some s.code
  | _ => none

/-- The text that a value counts as. -/
def keyText? : Datum → Option String
  | text s => some s
  | severity s => some s.text
  | variant v => some v.text
  | _ => none

mutual
/-- Two values are one key. -/
def sameKey : Datum → Datum → Bool
  | null, null => true
  | float x, float y => x.sameNumber y
  | path p, path q => p == q
  | bytes a, bytes b => a == b
  | finding f, finding g => f == g
  | diagnostic d, diagnostic e => d == e
  | limits l, limits k => l == k
  | tuple xs, tuple ys => sameKeys xs ys
  | a, b =>
    match wholeNumber? a, wholeNumber? b, keyText? a, keyText? b, a, b with
    | some n, some k, _, _, _, _ => n == k
    | some n, none, _, _, _, float y => y.eqInt n
    | none, some k, _, _, float x, _ => x.eqInt k
    | _, _, some s, some t, _, _ => s == t
    | _, _, _, _, _, _ => false

/-- Two lists of values are one key, part by part. -/
def sameKeys : List Datum → List Datum → Bool
  | [], [] => true
  | a :: as, b :: bs => sameKey a b && sameKeys as bs
  | _, _ => false
end

mutual
/-- Why a value is no key. -/
def notAKey? : Datum → Option NotAKey
  | list _ => some ⟨"list"⟩
  | map _ => some ⟨"dict"⟩
  | report _ => some ⟨"AnalysisReport"⟩
  | tuple items => notAKeyAmong? items
  | _ => none

/-- The first of the values that is no key. -/
def notAKeyAmong? : List Datum → Option NotAKey
  | [] => none
  | d :: rest => (notAKey? d).or (notAKeyAmong? rest)
end

/-- Puts a value under a key: in place of what stands under it, else at the end. -/
def insert (k v : Datum) : List (Datum × Datum) → List (Datum × Datum)
  | [] => [(k, v)]
  | (k', v') :: rest => if sameKey k' k then (k', v) :: rest else (k', v') :: insert k v rest

/-- The map that comes of putting entries into it one after the other. -/
def ofEntries (entries : List (Datum × Datum)) : Except NotAKey Datum := do
  let fields ← entries.foldlM
    (fun fields (k, v) =>
      match notAKey? k with
      | some e => .error e
      | none => .ok (insert k v fields)) []
  return map fields

end CodeSmell.Datum
