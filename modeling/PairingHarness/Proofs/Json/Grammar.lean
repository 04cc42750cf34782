/-
The grammar of JSON, with no reader in sight.

Two relations say what a text is. `ValueForm s` holds when the
characters `s` are one value by the grammar alone: its numbers may be of
any size, its escapes may stand for half a character, and it may be
nested to any depth. `Writes depth s v` holds when `s` writes the value
`v` with at most `depth` arrays and objects inside each other; here
every string stands for characters and every number for a number. What
is written is a value by the grammar (`Writes.form`).

Both are built on the same layer: blanks (`Gap`), strings (`TextForm`,
`Spells`), numbers (`Numeral`, with the number it writes computed), and
the items between two brackets (`Separated`), where an item is any run
of characters. A member of an object is such an item (`MemberText`), and
with its name decoded it is a `Member`.

The relations are as in the standard: blanks are the four characters
that it names, a member's name is any string, the order of members is
kept and a name may come twice. What a reader makes of that is not
decided here, and each of the theorems that compare a reader with the
grammar takes the side of the grammar as given.
-/
import PairingHarness.Json.Token

namespace PairingHarness.Json

-- =============================================================== blanks

/-- A run of blanks, perhaps none. -/
structure Gap where
  chars : List Char
  blank : ∀ c ∈ chars, isSpace c = true

/-- No blank. -/
def Gap.none : Gap :=
  ⟨[], fun _ h => nomatch h⟩

/-- Two runs make one. -/
def Gap.append (g g' : Gap) : Gap where
  chars := g.chars ++ g'.chars
  blank c h := (List.mem_append.1 h).elim (g.blank c) (g'.blank c)

-- ============================================================== strings

/-- The value of four hexadecimal digits. -/
def hexValue? (a b c d : Char) : Option Nat := do
  let a ← hexDigit? a
  let b ← hexDigit? b
  let c ← hexDigit? c
  let d ← hexDigit? d
  return ((a * 16 + b) * 16 + c) * 16 + d

/-- The characters between the quotes of a string, and the text that
they stand for. -/
inductive Spells : (source text : List Char) → Prop where
  | nil : Spells [] []
  | plain {c : Char} {s t : List Char} (hquote : c ≠ '"')
      (hslash : c ≠ '\\') (hcontrol : 0x20 ≤ c.toNat) :
      Spells s t → Spells (c :: s) (c :: t)
  | escape {c e : Char} {s t : List Char} (h : escaped? c = some e) :
      Spells s t → Spells ('\\' :: c :: s) (e :: t)
  | unit {a b c d : Char} {v : Nat} {s t : List Char}
      (h : hexValue? a b c d = some v) (hlead : isLead v = false)
      (htrail : isTrail v = false) :
      Spells s t →
      Spells ('\\' :: 'u' :: a :: b :: c :: d :: s) (Char.ofNat v :: t)
  /-- A character written as two surrogates. -/
  | pair {a b c d a' b' c' d' : Char} {v v' : Nat} {s t : List Char}
      (h : hexValue? a b c d = some v) (hlead : isLead v = true)
      (h' : hexValue? a' b' c' d' = some v') (htrail : isTrail v' = true) :
      Spells s t →
      Spells ('\\' :: 'u' :: a :: b :: c :: d
          :: '\\' :: 'u' :: a' :: b' :: c' :: d' :: s)
        (pairChar v v' :: t)

/-- The characters between the quotes of a string, whatever its escapes
stand for. -/
inductive TextForm : List Char → Prop where
  | nil : TextForm []
  | plain {c : Char} {s : List Char} (hquote : c ≠ '"')
      (hslash : c ≠ '\\') (hcontrol : 0x20 ≤ c.toNat) :
      TextForm s → TextForm (c :: s)
  | escape {c : Char} {s : List Char} (h : (escaped? c).isSome = true) :
      TextForm s → TextForm ('\\' :: c :: s)
  | unit {a b c d : Char} {s : List Char}
      (h : (hexValue? a b c d).isSome = true) :
      TextForm s → TextForm ('\\' :: 'u' :: a :: b :: c :: d :: s)

/-- What spells a text has the form of a text. -/
theorem Spells.form {s t : List Char} (h : Spells s t) : TextForm s := by
  induction h with
  | nil => exact .nil
  | plain hquote hslash hcontrol _ ih =>
      exact .plain hquote hslash hcontrol ih
  | escape he _ ih => exact .escape (by rw [he]; rfl) ih
  | unit hv _ _ _ ih => exact .unit (by rw [hv]; rfl) ih
  | pair hv _ hv' _ _ ih =>
      exact .unit (by rw [hv]; rfl) (.unit (by rw [hv']; rfl) ih)

/-- The text of a string with its quotes. -/
def quote (source : List Char) : List Char :=
  '"' :: (source ++ ['"'])

/-- A quoted text and what follows it, character by character. -/
theorem quote_append (source r : List Char) :
    quote source ++ r = '"' :: (source ++ '"' :: r) := by
  rw [quote, List.cons_append, List.append_assoc]
  rfl

-- ============================================================== numbers

/-- One or more digits. -/
structure Digits where
  chars : List Char
  nonempty : chars ≠ []
  digits : ∀ c ∈ chars, isDigit c = true

/-- The value of digits that follow a number. -/
def appendDigits (n : Nat) (cs : List Char) : Nat :=
  cs.foldl (fun n c => n * 10 + digitValue c) n

/-- The value of digits. -/
def Digits.value (ds : Digits) : Nat :=
  appendDigits 0 ds.chars

/-- The sign of an exponent, where one is written. -/
inductive ScaleSign where
  | absent
  | plus
  | minus
  deriving DecidableEq, Repr

/-- The sign as it is written. -/
def ScaleSign.chars : ScaleSign → List Char
  | absent => []
  | plus => ['+']
  | minus => ['-']

/-- An exponent. -/
structure Scale where
  /-- Whether its letter is a capital. -/
  capital : Bool
  sign : ScaleSign
  digits : Digits

/-- The exponent as it is written. -/
def Scale.chars (x : Scale) : List Char :=
  (if x.capital then 'E' else 'e') :: (x.sign.chars ++ x.digits.chars)

/-- A number by its parts. -/
structure Numeral where
  negative : Bool
  whole : Digits
  /-- Nothing follows a zero at the front. -/
  leading : whole.chars.head? = some '0' → whole.chars = ['0']
  fraction : Option Digits
  scale : Option Scale

/-- A significand times a power of ten as a double; none where that is
beyond the finite ones. -/
def scaled? (negative : Bool) (m : Nat) (e : Int) : Option Double :=
  (Double.ofParts m e).map fun p => ⟨negative, p⟩

/-- The same with an exponent. One too large to be counted makes the
number zero or puts it beyond the finite ones. -/
def Scale.double? (x : Scale) (negative : Bool) (m : Nat) (e : Int) :
    Option Double :=
  if x.digits.value ≤ maxExponent then
    scaled? negative m
      (if x.sign = .minus then e - x.digits.value else e + x.digits.value)
  else if m ≠ 0 ∧ x.sign ≠ .minus then none
  else some ⟨negative, 0⟩

namespace Numeral

/-- A fraction as it is written. -/
def fractionChars : Option Digits → List Char
  | some ds => '.' :: ds.chars
  | none => []

/-- An exponent, or none, as it is written. -/
def scaleChars : Option Scale → List Char
  | some x => x.chars
  | none => []

/-- The number as it is written, without its sign. -/
def unsigned (n : Numeral) : List Char :=
  n.whole.chars ++ (fractionChars n.fraction ++ scaleChars n.scale)

/-- The number as it is written. -/
def chars (n : Numeral) : List Char :=
  if n.negative then '-' :: n.unsigned else n.unsigned

/-- The whole number of sixty-four bits that it writes: one without
fraction and exponent, and not a zero with a sign. -/
def integer? (n : Numeral) : Option Int :=
  match n.fraction, n.scale with
  | none, none =>
    if n.negative then
      if n.whole.value ≠ 0 ∧ n.whole.value ≤ Nat.pow 2 63 then
        some (-(n.whole.value : Int))
      else none
    else if n.whole.value ≤ Decimal.maxWord64 then some n.whole.value
    else none
  | _, _ => none

/-- The significand, as many digits of it as sixty-four bits hold, and
the power of ten that goes with it before the exponent. -/
def parts (n : Numeral) : Nat × Int :=
  let w := extend 0 n.whole.chars
  match n.fraction with
  | none => (w.1, w.2)
  | some ds =>
    let f := extend w.1 ds.chars
    (f.1, w.2 - (ds.chars.length - f.2 : Nat))

/-- The double that it writes; none where that is beyond the finite
ones. -/
def double? (n : Numeral) : Option Double :=
  match n.scale with
  | some x => x.double? n.negative n.parts.1 n.parts.2
  | none =>
    if n.fraction = none ∧ n.parts.2 = 0 then
      some ⟨n.negative, Double.nearest n.parts.1 1⟩
    else scaled? n.negative n.parts.1 n.parts.2

/-- The number that it writes. -/
def value? (n : Numeral) : Option Number :=
  match n.integer? with
  | some i => some (.integer i)
  | none => n.double?.map .double

end Numeral

-- =================================================== items in brackets

/-- What stands before an item: blanks, and a comma unless it is the
first. -/
inductive Lead : (first : Bool) → List Char → Prop where
  | first (g : Gap) : Lead true g.chars
  | next (g g' : Gap) : Lead false (g.chars ++ ',' :: g'.chars)

/-- The items that are still to come in a bracket, up to the character
that closes it. -/
inductive Separated (closer : Char) :
    (first : Bool) → (items : List (List Char)) → List Char → Prop where
  | close (first : Bool) (g : Gap) :
      Separated closer first [] (g.chars ++ [closer])
  | item {first : Bool} {lead e t : List Char} {items : List (List Char)} :
      Lead first lead → Separated closer false items t →
      Separated closer first (e :: items) (lead ++ (e ++ t))

/-- A member of an object: what stands between the quotes of its name,
the blanks about the colon, and the text of its value. -/
structure MemberText where
  spelling : List Char
  before : Gap
  after : Gap
  value : List Char

/-- The member as it is written. -/
def MemberText.chars (m : MemberText) : List Char :=
  quote m.spelling ++ (m.before.chars ++ ':' :: (m.after.chars ++ m.value))

/-- A member whose name is a text. -/
structure Member extends MemberText where
  name : String
  spelled : Spells spelling name.toList

-- =============================================================== values

/-- One value by the grammar alone. -/
inductive ValueForm : List Char → Prop where
  | null : ValueForm ['n', 'u', 'l', 'l']
  | yes : ValueForm ['t', 'r', 'u', 'e']
  | no : ValueForm ['f', 'a', 'l', 's', 'e']
  | number (n : Numeral) : ValueForm n.chars
  | text {s : List Char} (h : TextForm s) : ValueForm (quote s)
  | array {items : List (List Char)} {t : List Char}
      (h : Separated ']' true items t) (hitems : ∀ e ∈ items, ValueForm e) :
      ValueForm ('[' :: t)
  | object {ms : List MemberText} {t : List Char}
      (h : Separated '\x7d' true (ms.map MemberText.chars) t)
      (hnames : ∀ m ∈ ms, TextForm m.spelling)
      (hvalues : ∀ m ∈ ms, ValueForm m.value) : ValueForm ('\x7b' :: t)

/-- The members of an object from those that are written: of one name,
the last. -/
def gather {α : Type} (ms : List (String × α)) : List (String × α) :=
  ms.foldr (fun m later => addMember m.1 m.2 later) []

/-- A text that writes a value, with at most `depth` arrays and objects
inside each other. -/
inductive Writes : (depth : Nat) → List Char → Value → Prop where
  | null (depth : Nat) : Writes depth ['n', 'u', 'l', 'l'] .null
  | yes (depth : Nat) : Writes depth ['t', 'r', 'u', 'e'] (.boolean true)
  | no (depth : Nat) :
      Writes depth ['f', 'a', 'l', 's', 'e'] (.boolean false)
  | number (depth : Nat) {n : Numeral} {v : Number}
      (h : n.value? = some v) : Writes depth n.chars (.number v)
  | text (depth : Nat) {s : List Char} {v : String}
      (h : Spells s v.toList) : Writes depth (quote s) (.text v)
  | array {depth : Nat} {items : List (List Char × Value)} {t : List Char}
      (h : Separated ']' true (items.map Prod.fst) t)
      (hitems : ∀ e ∈ items, Writes depth e.1 e.2) :
      Writes (depth + 1) ('[' :: t) (.array (items.map Prod.snd))
  | object {depth : Nat} {ms : List (Member × Value)} {t : List Char}
      (h : Separated '\x7d' true (ms.map fun m => m.1.chars) t)
      (hvalues : ∀ m ∈ ms, Writes depth m.1.value m.2) :
      Writes (depth + 1) ('\x7b' :: t)
        (.object (gather (ms.map fun m => (m.1.name, m.2))))

/-- What is written is a value by the grammar. -/
theorem Writes.form {depth : Nat} {s : List Char} {v : Value}
    (h : Writes depth s v) : ValueForm s := by
  induction h with
  | null _ => exact .null
  | yes _ => exact .yes
  | no _ => exact .no
  | @number _ n _ _ => exact .number n
  | text _ hs => exact .text hs.form
  | @array _ items t ht _ ih =>
      refine .array ht fun e he => ?_
      obtain ⟨i, hi, rfl⟩ := List.mem_map.1 he
      exact ih i hi
  | @object _ ms t ht _ ih =>
      have ht : Separated '\x7d' true
          ((ms.map fun m => m.1.toMemberText).map MemberText.chars) t := by
        rw [List.map_map]
        exact ht
      refine .object ht (fun m hm => ?_) fun m hm => ?_
      · obtain ⟨i, -, rfl⟩ := List.mem_map.1 hm
        exact i.1.spelled.form
      · obtain ⟨i, hi, rfl⟩ := List.mem_map.1 hm
        exact ih i hi

end PairingHarness.Json
