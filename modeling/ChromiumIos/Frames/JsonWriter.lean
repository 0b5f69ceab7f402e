import ChromiumIos.Lib.JsonText

/-!
# Values and the texts they are written as

A value is written without spaces.  In strings the control characters, quotes,
backslashes, `<` and the separators of lines and paragraphs are escaped; all other
characters stand for themselves.  A number is given by the literal it is written as.
-/

namespace ChromiumIos

open Lib Lib.Json

structure NumberLiteral where
  text : List Char
  ascii : ∀ c ∈ text, c.toNat < 128
  accepted : NumberState.start.accepts (text.map unit) = true

namespace NumberLiteral

theorem digit_spec {c : Char} (digit : c.isDigit = true) :
    c.toNat < 128 ∧ NumberState.isDigit (unit c) = true ∧ unit c ≠ unit '-' ∧
      (c ≠ '0' → unit c ≠ unit '0') := by
  have small : c.toNat < 128 := by
    have upper : c.val ≤ 57 := (Bool.and_eq_true_iff.mp digit).2 |> of_decide_eq_true
    have value : c.toNat ≤ (57 : UInt32).toNat := UInt32.le_iff_toNat_le.mp upper
    exact Nat.lt_of_le_of_lt value (by decide)
  have known : ∀ n < 128, (Char.ofNat n).isDigit = true →
      NumberState.isDigit (unit (Char.ofNat n)) = true ∧ unit (Char.ofNat n) ≠ unit '-' ∧
        (Char.ofNat n ≠ '0' → unit (Char.ofNat n) ≠ unit '0') := by decide
  grind [Char.ofNat_toNat]

theorem accepts_digits {digits : List Char} (each : ∀ c ∈ digits, c.isDigit = true) :
    NumberState.integer.accepts (digits.map unit) = true := by
  induction digits with
  | nil => rfl
  | cons c _ ih =>
    have digit := (digit_spec (each c List.mem_cons_self)).2.1
    have moved : NumberState.integer.next (unit c) = some .integer := if_pos digit
    simpa [NumberState.accepts, moved] using ih fun c mem => each c (List.mem_cons_of_mem _ mem)

theorem toDigits_eq_cons {n : Nat} (positive : 0 < n) :
    ∃ c rest, Nat.toDigits 10 n = c :: rest ∧ c ≠ '0' := by
  induction n using Nat.strongRecOn with
  | ind n ih =>
    by_cases small : n < 10
    · refine ⟨n.digitChar, [], Nat.toDigits_of_lt_base small, ?_⟩
      have nonzero : ∀ n < 10, 0 < n → n.digitChar ≠ '0' := by decide
      exact nonzero n small positive
    · have large := Nat.le_of_not_lt small
      obtain ⟨c, rest, shape, nonzero⟩ :=
        ih (n / 10) (Nat.div_lt_self positive (by decide)) (Nat.div_pos large (by decide))
      grind [Nat.toDigits_of_base_le]

theorem isDigit_of_mem {n : Nat} {c : Char} (mem : c ∈ Nat.toDigits 10 n) : c.isDigit = true :=
  Nat.isDigit_of_mem_toDigits (by decide) (by decide) mem

/-- The digits of a number are a literal, also behind a sign. -/
theorem accepts_toDigits {state : NumberState} (first : state = .start ∨ state = .minus) (n : Nat) :
    state.accepts ((Nat.toDigits 10 n).map unit) = true := by
  rcases Nat.eq_zero_or_pos n with rfl | positive
  · rcases first with rfl | rfl <;> decide
  · obtain ⟨c, rest, shape, nonzero⟩ := toDigits_eq_cons positive
    have each : ∀ c ∈ Nat.toDigits 10 n, c.isDigit = true := fun c mem => isDigit_of_mem mem
    rw [shape] at each ⊢
    obtain ⟨-, digit, notMinus, notZero⟩ := digit_spec (each c List.mem_cons_self)
    have moved : state.next (unit c) = some .integer := by
      rcases first with rfl | rfl <;> simp [NumberState.next, if_neg notMinus,
        if_neg (notZero nonzero), if_pos digit]
    rw [List.map_cons, NumberState.accepts, moved]
    grind [accepts_digits]

theorem ascii_toDigits (n : Nat) : ∀ c ∈ Nat.toDigits 10 n, c.toNat < 128 :=
  fun _ mem => (digit_spec (isDigit_of_mem mem)).1

theorem ascii_minus (n : Nat) : ∀ c ∈ '-' :: Nat.toDigits 10 (n + 1), c.toNat < 128 := by
  intro c mem
  rcases List.mem_cons.mp mem with rfl | mem
  · decide
  · exact ascii_toDigits _ c mem

theorem accepted_toDigits (n : Nat) :
    NumberState.start.accepts ((Nat.toDigits 10 n).map unit) = true :=
  accepts_toDigits (.inl rfl) n

theorem accepted_minus (n : Nat) :
    NumberState.start.accepts (('-' :: Nat.toDigits 10 (n + 1)).map unit) = true :=
  accepts_toDigits (.inr rfl) (n + 1)

/-- The literal of an integer. -/
def ofInt : Int → NumberLiteral
  | .ofNat n =>
    { text := Nat.toDigits 10 n
      ascii := ascii_toDigits n
      accepted := accepted_toDigits n }
  | .negSucc n =>
    { text := '-' :: Nat.toDigits 10 (n + 1)
      ascii := ascii_minus n
      accepted := accepted_minus n }

end NumberLiteral

/-- A value that can be written as JSON. -/
inductive BaseValue where
  | null
  | boolean (value : Bool)
  | number (literal : NumberLiteral)
  | string (text : List Char)
  | list (values : List BaseValue)
  | dictionary (entries : List (List Char × BaseValue))

namespace JSONWriter

/-! ## The writer -/

def hexDigit (n : Nat) : Char :=
  if n < 10 then Char.ofNat ('0'.toNat + n) else Char.ofNat ('A'.toNat + (n - 10))

def hexDigits (n : Nat) : List Char :=
  [hexDigit (n / 4096), hexDigit (n / 256 % 16), hexDigit (n / 16 % 16), hexDigit (n % 16)]

/-- The letter behind the backslash of a short escape. -/
def shortEscape (c : Char) : Option Char :=
  if c = '"' then some '"'
  else if c = '\\' then some '\\'
  else if c.toNat = 8 then some 'b'
  else if c.toNat = 12 then some 'f'
  else if c = '\n' then some 'n'
  else if c = '\r' then some 'r'
  else if c = '\t' then some 't'
  else none

/-- The other characters that are escaped. -/
def NeedsHex (c : Char) : Prop :=
  c.toNat < 32 ∨ c = '<' ∨ c.toNat = 0x2028 ∨ c.toNat = 0x2029
deriving Decidable

def escape (c : Char) : List Char :=
  match shortEscape c with
  | some letter => ['\\', letter]
  | none => if NeedsHex c then '\\' :: 'u' :: hexDigits c.toNat else [c]

def writeString (text : List Char) : List Char := '"' :: (text.flatMap escape ++ ['"'])

mutual

def write : BaseValue → List Char
  | .null => ['n', 'u', 'l', 'l']
  | .boolean true => ['t', 'r', 'u', 'e']
  | .boolean false => ['f', 'a', 'l', 's', 'e']
  | .number literal => literal.text
  | .string text => writeString text
  | .list values => '[' :: items ']' (writeEach values)
  | .dictionary entries => '\x7b' :: items '\x7d' (writeEntries entries)

def writeEach : List BaseValue → List (List Char)
  | [] => []
  | value :: rest => write value :: writeEach rest

def writeEntries : List (List Char × BaseValue) → List (List Char)
  | [] => []
  | (key, value) :: rest => (writeString key ++ ':' :: write value) :: writeEntries rest

end

end JSONWriter

namespace BaseValue

mutual

/-- The value in a script, with the units for the characters of its strings. -/
def toJs (object : List (List UInt16 × JsValue) → JsValue) (units : Char → List UInt16) :
    BaseValue → JsValue
  | .null => .null
  | .boolean value => .boolean value
  | .number literal => .number (literal.text.map unit)
  | .string text => .string (text.flatMap units)
  | .list values => .array (toJsEach object units values)
  | .dictionary entries => object (toJsEntries object units entries)

def toJsEach (object : List (List UInt16 × JsValue) → JsValue) (units : Char → List UInt16) :
    List BaseValue → List JsValue
  | [] => []
  | value :: rest => value.toJs object units :: toJsEach object units rest

def toJsEntries (object : List (List UInt16 × JsValue) → JsValue) (units : Char → List UInt16) :
    List (List Char × BaseValue) → List (List UInt16 × JsValue)
  | [] => []
  | (key, value) :: rest =>
    (key.flatMap units, value.toJs object units) :: toJsEntries object units rest

end

mutual

def strings : BaseValue → List (List Char)
  | .null | .boolean _ | .number _ => []
  | .string text => [text]
  | .list values => stringsEach values
  | .dictionary entries => stringsEntries entries

def stringsEach : List BaseValue → List (List Char)
  | [] => []
  | value :: rest => value.strings ++ stringsEach rest

def stringsEntries : List (List Char × BaseValue) → List (List Char)
  | [] => []
  | (key, value) :: rest => key :: (value.strings ++ stringsEntries rest)

end

mutual

def keys : BaseValue → List (List Char)
  | .null | .boolean _ | .number _ | .string _ => []
  | .list values => keysEach values
  | .dictionary entries => entries.map Prod.fst ++ keysEntries entries

def keysEach : List BaseValue → List (List Char)
  | [] => []
  | value :: rest => value.keys ++ keysEach rest

def keysEntries : List (List Char × BaseValue) → List (List Char)
  | [] => []
  | (_, value) :: rest => value.keys ++ keysEntries rest

end

end BaseValue

end ChromiumIos
