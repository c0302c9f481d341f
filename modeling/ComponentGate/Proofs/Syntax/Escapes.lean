import ComponentGate.Json.Reader
import ComponentGate.Syntax.Cursor

/-! Escapes. What stands between the quotes of a literal is a row of pieces: plain characters, escapes and
continued lines. A piece spells units of UTF-16, and one that spells a single unit below 256 can be
respelled as a backslash, an `x` and two hexadecimal digits: the literal keeps its value. -/

namespace ComponentGate.Syntax

/-- The units of UTF-16 that a code point takes. -/
def unitsOf (point : Nat) : List Nat :=
  if point < 0x10000 then [point]
  else [0xD800 + (point - 0x10000) / 0x400, 0xDC00 + (point - 0x10000) % 0x400]

/-- The number that digits spell to a base of at most sixteen. -/
def number? (base : Nat) (digits : List Char) : Option Nat :=
  (digits.mapM Json.hexDigit?).map fun values =>
    values.foldl (fun number digit => base * number + digit) 0

/-- The letters that spell a control character behind a backslash. -/
def controlLetters : List (Char × Nat) :=
  [('b', 8), ('t', 9), ('n', 10), ('v', 11), ('f', 12), ('r', 13)]

/-- Whether a character stands for itself behind a backslash. -/
def isSelfEscaped (c : Char) : Bool :=
  !(isOctalDigit c || c == 'x' || c == 'u' || (controlLetters.map Prod.fst).contains c ||
    endsLineComment c)

/-- Whether a character stands for itself without a backslash. -/
def isUnescaped (c : Char) : Bool := c != '\\' && c != '\n' && c != '\r'

/-- The units that a piece spells in front of the character `next`. -/
inductive IsPiece : (piece : List Char) → (units : List Nat) → (next : Option Char) → Prop where
  | plain (plain : isUnescaped c = true) : IsPiece [c] (unitsOf c.toNat) next
  | byte (digits : number? 16 [high, low] = some unit) : IsPiece ['\\', 'x', high, low] [unit] next
  | unit (digits : number? 16 [first, second, third, fourth] = some unit) :
      IsPiece ['\\', 'u', first, second, third, fourth] [unit] next
  | point (digits : number? 16 (first :: more) = some point) (valid : point ≤ 0x10FFFF) :
      IsPiece (['\\', 'u', '\x7b', first] ++ more ++ ['\x7d']) (unitsOf point) next
  /-- As many digits as can be read, up to three and below 256. -/
  | octal (digits : ∀ digit ∈ first :: more, isOctalDigit digit = true)
      (spelled : number? 8 (first :: more) = some unit) (short : more.length ≤ 2) (small : unit < 256)
      (full : more.length = 2 ∨ 256 ≤ 8 * unit ∨ next.any isOctalDigit = false) :
      IsPiece ('\\' :: first :: more) [unit] next
  | control (listed : (c, unit) ∈ controlLetters) : IsPiece ['\\', c] [unit] next
  | itself (plain : isSelfEscaped c = true) : IsPiece ['\\', c] (unitsOf c.toNat) next
  | continuation (ends : endsLineComment c = true) (alone : c = '\r' → next ≠ some '\n') :
      IsPiece ['\\', c] [] next
  | wideContinuation : IsPiece ['\\', '\r', '\n'] [] next

/-- The units that a literal spells. -/
inductive Spells : List Char → List Nat → Prop where
  | done : Spells [] []
  | piece (first : IsPiece piece units rest.head?) (below : Spells rest more) :
      Spells (piece ++ rest) (units ++ more)

/-- `new` spells some of the pieces of `old` by the two hexadecimal digits of their units. -/
inductive Respelled : (old new : List Char) → Prop where
  | done : Respelled [] []
  | kept (first : IsPiece piece units rest.head?) (below : Respelled rest rest') :
      Respelled (piece ++ rest) (piece ++ rest')
  | escaped (first : IsPiece piece [unit] rest.head?) (digits : number? 16 [high, low] = some unit)
      (below : Respelled rest rest') :
      Respelled (piece ++ rest) ('\\' :: 'x' :: high :: low :: rest')

/-- A backslash ends the digits of a piece as what stood in its place did. -/
theorem IsPiece.before_backslash (first : IsPiece piece units next) :
    IsPiece piece units (some '\\') := by
  cases first with
  | plain plain => exact .plain plain
  | byte digits => exact .byte digits
  | unit digits => exact .unit digits
  | point digits valid => exact .point digits valid
  | octal digits spelled short small _ =>
    exact .octal digits spelled short small (.inr (.inr (by decide)))
  | control listed => exact .control listed
  | itself plain => exact .itself plain
  | continuation ends _ => exact .continuation ends (fun _ => by decide)
  | wideContinuation => exact .wideContinuation

theorem IsPiece.ne_nil (first : IsPiece piece units next) : piece ≠ [] := by
  cases first <;> simp

theorem Respelled.head (respelled : Respelled old new) :
    new.head? = old.head? ∨ new.head? = some '\\' := by
  cases respelled with
  | done => exact .inl rfl
  | kept first _ =>
    obtain ⟨c, more, rfl⟩ := List.exists_cons_of_ne_nil first.ne_nil
    exact .inl rfl
  | escaped => exact .inr rfl

/-- Respelled text has the value that the text had. -/
theorem Respelled.spells (respelled : Respelled old new) :
    ∃ value, Spells old value ∧ Spells new value := by
  induction respelled with
  | done => exact ⟨[], .done, .done⟩
  | kept first below ih =>
    obtain ⟨value, before, after⟩ := ih
    refine ⟨_, .piece first before, .piece ?_ after⟩
    rcases below.head with same | escaped
    · rw [same]
      exact first
    · rw [escaped]
      exact first.before_backslash
  | escaped first digits _ ih =>
    obtain ⟨value, before, after⟩ := ih
    exact ⟨_, .piece first before, @Spells.piece _ _ _ _ (.byte digits) after⟩

/-- Plain text may be left as it is. -/
theorem respelled_plain {text : List Char} (plain : text.all isUnescaped = true) :
    Respelled text text := by
  induction text with
  | nil => exact .done
  | cons c rest ih =>
    rw [List.all_cons, Bool.and_eq_true] at plain
    exact @Respelled.kept [c] _ rest rest (.plain plain.1) (ih plain.2)

/-- What is spelled anew holds a backslash. -/
theorem Respelled.backslash_mem (respelled : Respelled old new) (altered : new ≠ old) :
    '\\' ∈ new := by
  induction respelled with
  | done => exact absurd rfl altered
  | kept first below ih =>
    exact List.mem_append_right _ (ih fun same => altered (by rw [same]))
  | escaped => simp

end ComponentGate.Syntax
