import ChromiumIos.Lib.Json

/-!
# What a parser of JSON makes of a text

A text is read item by item.  Each item is recognised by its first character and ends
before a character that ends items, so items that are read on their own are read one
after the other.
-/

namespace ChromiumIos.Lib.Json

/-- Units for the characters of a text. -/
structure Encoding where
  units : Char → List UInt16
  ascii : ∀ c, c.toNat < 128 → units c = [unit c]
  other : ∀ c, ¬ c.toNat < 128 → units c ≠ [] ∧ ∀ u ∈ units c, 128 ≤ u.toNat

variable (close : Char) {c : Char}

namespace Encoding

variable (encoding : Encoding)

def text (chars : List Char) : List UInt16 := chars.flatMap encoding.units

@[simp]
theorem text_nil : encoding.text [] = [] := rfl

@[simp]
theorem text_append (first rest : List Char) :
    encoding.text (first ++ rest) = encoding.text first ++ encoding.text rest :=
  List.flatMap_append

theorem text_cons (c : Char) (rest : List Char) :
    encoding.text (c :: rest) = encoding.units c ++ encoding.text rest :=
  List.flatMap_cons

theorem text_cons_ascii (ascii : c.toNat < 128) (rest : List Char) :
    encoding.text (c :: rest) = unit c :: encoding.text rest := by
  rw [text_cons, encoding.ascii c ascii]
  rfl

theorem text_ascii {chars : List Char} (ascii : ∀ c ∈ chars, c.toNat < 128) :
    encoding.text chars = chars.map unit := by
  induction chars with
  | nil => rfl
  | cons _ _ _ =>
    grind [text_cons_ascii]

theorem units_ne_nil (c : Char) : encoding.units c ≠ [] := by
  by_cases ascii : c.toNat < 128
  · simp [encoding.ascii c ascii]
  · exact (encoding.other c ascii).1

theorem length_le_length_text (chars : List Char) :
    chars.length ≤ (encoding.text chars).length := by
  induction chars with
  | nil => exact Nat.le_refl _
  | cons _ _ _ =>
    grind [List.length_pos_of_ne_nil, text_cons, encoding.units_ne_nil]

end Encoding

/-! ## Where items begin and end -/

/-- The characters behind an item. -/
def closers : List Char := [',', ']', '\x7d', ')']

def Follows (rest : List UInt16) : Prop :=
  ∀ u ∈ rest.head?, u ∈ closers.map unit

theorem follows_nil : Follows [] := nofun

theorem follows_cons (closes : c ∈ closers) (rest : List UInt16) : Follows (unit c :: rest) := by
  intro u mem
  cases mem
  grind

/-- The characters that items begin with. -/
def openers : List Char :=
  ['"', '[', '\x7b', 'n', 't', 'f', '-', '0', '1', '2', '3', '4', '5', '6', '7', '8', '9']

theorem ascii_of_mem_openers : ∀ c ∈ openers, c.toNat < 128 := by decide

theorem skipSpace_opener (opens : c ∈ openers) (rest : List UInt16) :
    skipSpace (unit c :: rest) = unit c :: rest := by
  have visible : ∀ c ∈ openers, isSpace (unit c) = false := by decide
  exact List.dropWhile_cons_of_neg (by simp [visible c opens])

theorem skipSpace_closer (closes : c ∈ closers) (rest : List UInt16) :
    skipSpace (unit c :: rest) = unit c :: rest := by
  have visible : ∀ c ∈ closers, isSpace (unit c) = false := by decide
  exact List.dropWhile_cons_of_neg (by simp [visible c closes])

theorem opener_ne_closer {opener closer : Char} (opens : opener ∈ openers)
    (closes : closer ∈ closers) : unit opener ≠ unit closer := by
  have apart : ∀ opener ∈ openers, ∀ closer ∈ closers, unit opener ≠ unit closer := by decide
  exact apart opener opens closer closes

variable {α : Type*} {encoding : Encoding}

structure Reads (encoding : Encoding) (item : List UInt16 → Option (α × List UInt16))
    (text : List Char) (value : α) : Prop where
  opens : ∃ c ∈ openers, ∃ rest, text = c :: rest
  reads : ∀ rest, Follows rest → item (encoding.text text ++ rest) = some (value, rest)

/-- What stands behind the first of some items. -/
def more (close : Char) : List (List Char) → List Char
  | [] => [close]
  | text :: rest => ',' :: (text ++ more close rest)

def items (close : Char) : List (List Char) → List Char
  | [] => [close]
  | text :: rest => text ++ more close rest

theorem length_le_length_more (texts : List (List Char)) :
    texts.length < (more close texts).length ∧
      ∀ text ∈ texts, text.length < (more close texts).length := by
  induction texts with
  | nil => simp [more]
  | cons _ _ _ =>
    grind [more]

variable {texts : List (List Char)}

theorem length_le_length_items (nonempty : ∀ text ∈ texts, text ≠ []) :
    texts.length ≤ (items close texts).length ∧
      ∀ text ∈ texts, text.length < (items close texts).length := by
  cases texts <;> grind [items, length_le_length_more]

section Items

variable {item : List UInt16 → Option (α × List UInt16)} {close : Char}
variable {value : α}

theorem Reads.skipSpace_text {text : List Char} (reads : Reads encoding item text value)
    (rest : List UInt16) : skipSpace (encoding.text text ++ rest) = encoding.text text ++ rest := by
  grind [ascii_of_mem_openers, skipSpace_opener, reads.opens, encoding.text_cons_ascii]

theorem ascii_of_mem_closers : ∀ c ∈ closers, c.toNat < 128 := by decide

variable {fuel : Nat} {values : List α}

theorem parseMore_more (closes : close ∈ closers) (notComma : close ≠ ',') {first : List Char}
    (enough : texts.length < fuel) (reads : Reads encoding item first value)
    (others : List.Forall₂ (Reads encoding item) texts values) (rest : List UInt16) :
    parseMore item (unit close) fuel
      (encoding.text (first ++ more close texts) ++ rest) = some (value :: values, rest) := by
  have asciiClose := ascii_of_mem_closers close closes
  induction others generalizing first value fuel with
  | nil =>
    obtain ⟨fuel, rfl⟩ := Nat.exists_eq_succ_of_ne_zero (Nat.ne_of_gt enough)
    have ended : encoding.text (first ++ more close []) ++ rest =
        encoding.text first ++ unit close :: rest := by
      simp [more, encoding.text_cons_ascii asciiClose]
    rw [ended, parseMore, reads.reads _ (follows_cons closes rest), Option.bind_some]
    simp [skipSpace_closer closes]
  | @cons second _ texts _ next _ _ =>
    obtain ⟨fuel, rfl⟩ := Nat.exists_eq_succ_of_ne_zero (Nat.ne_of_gt (Nat.zero_lt_of_lt enough))
    have comma : ',' ∈ closers := by decide
    have split : encoding.text (first ++ more close (second :: texts)) ++ rest =
        encoding.text first ++
          unit ',' :: (encoding.text (second ++ more close texts) ++ rest) := by
      rw [encoding.text_append, more, encoding.text_cons_ascii (by decide), List.append_assoc]
      rfl
    have different : unit ',' ≠ unit close := by
      have apart : ∀ close ∈ closers, close ≠ ',' → unit ',' ≠ unit close := by decide
      exact apart close closes notComma
    have behind : skipSpace (encoding.text (second ++ more close texts) ++ rest) =
        encoding.text (second ++ more close texts) ++ rest := by
      simp [next.skipSpace_text]
    rw [split, parseMore, reads.reads _ (follows_cons comma _), Option.bind_some]
    dsimp only
    rw [skipSpace_closer comma]
    grind

theorem parseItems_items (closes : close ∈ closers) (notComma : close ≠ ',')
    (enough : texts.length ≤ fuel) (reads : List.Forall₂ (Reads encoding item) texts values)
    (rest : List UInt16) :
    parseItems item (unit close) fuel
      (skipSpace (encoding.text (items close texts) ++ rest)) = some (values, rest) := by
  cases reads with
  | nil =>
    rw [items, encoding.text_cons_ascii (ascii_of_mem_closers close closes)]
    simp [parseItems, skipSpace_closer closes]
  | @cons text _ texts _ first others =>
    have visible : skipSpace (encoding.text (items close (text :: texts)) ++ rest) =
        encoding.text (text ++ more close texts) ++ rest := by
      simp [items, first.skipSpace_text]
    have parsed := parseMore_more closes notComma enough first others rest
    rw [visible]
    obtain ⟨c, opens, _, rfl⟩ := first.opens
    rw [List.cons_append, encoding.text_cons_ascii (ascii_of_mem_openers c opens)] at parsed ⊢
    exact (if_neg (opener_ne_closer opens closes)).trans parsed

end Items

/-! ## Numbers and keywords -/

theorem NumberState.next_closer (state : NumberState) {u : UInt16}
    (closes : u ∈ closers.map unit) : state.next u = none := by
  have stops : ∀ state : NumberState, ∀ u ∈ closers.map unit, state.next u = none := by
    intro state
    cases state <;> decide
  exact stops state u closes

theorem NumberState.scan_append {state : NumberState} {literal : List UInt16}
    (accepted : state.accepts literal = true) {rest : List UInt16} (follows : Follows rest) :
    state.scan (literal ++ rest) = some (literal, rest) := by
  induction literal generalizing state with
  | nil =>
    have accepting : state.isAccepting = true := accepted
    cases rest with
    | nil =>
      exact if_pos accepting
    | cons u _ =>
      simp [NumberState.scan, state.next_closer (follows u rfl), accepting]
  | cons _ _ _ =>
    obtain ⟨after, moved, accepted⟩ := (Option.any_eq_true _ _).mp accepted
    grind [NumberState.scan]

theorem parseKeyword_append {keyword : List Char} (ascii : ∀ c ∈ keyword, c.toNat < 128)
    (value : JsValue) (rest : List UInt16) :
    parseKeyword keyword value (encoding.text keyword ++ rest) = some (value, rest) := by
  rw [encoding.text_ascii ascii, parseKeyword, if_pos (by simp)]
  simp

end ChromiumIos.Lib.Json
