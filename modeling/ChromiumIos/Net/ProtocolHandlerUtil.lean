import ChromiumIos.Lib.Writes

/-!
# Responses for the URL loading system

The header lines of a response are merged into a dictionary.  Its keys are compared letter by
letter, with the exception of two names that the code looks for in any letter case; of several
values of the content type only the first is kept, by cutting what has been merged at a comma.
The comma is looked for as a letter; the search of the code would not find one that a combining
mark follows, and no such texts are meant here.
-/

namespace ChromiumIos

open Lib

namespace ProtocolHandlerUtil

abbrev Text := List Char

def kContentType : Text := "Content-Type".toList
def kCacheControl : Text := "Cache-Control".toList
def kNoStore : Text := "no-store".toList

/-- Names of headers are made of ASCII characters, in any letter case. -/
def sameName (first second : Text) : Bool := first.map Char.toLower = second.map Char.toLower

/-- A header line: its name and its value read as UTF-8, and the value read with the encoding that
is inferred from it; none where that fails. -/
structure HeaderLine where
  name : Option Text
  value : Option Text
  inferredValue : Option Text
deriving DecidableEq, Repr

structure HttpResponseHeaders where
  lines : List HeaderLine
  majorValue : Nat
  minorValue : Nat
deriving DecidableEq, Repr

structure URLRequest where
  schemeIsData : Bool
  mimeType : Text
  charset : Text
  responseCode : Int
  responseHeaders : Option HttpResponseHeaders
deriving DecidableEq, Repr

inductive NSURLResponse where
  | plain (mimeType : Text) (expectedContentLength : Int) (textEncodingName : Text)
  | http (statusCode : Int) (version : Text) (headerFields : Store Text Text)

/-- The dictionary while the lines are copied. -/
structure HeaderFields where
  hasContentTypeHeader : Bool
  fields : Store Text Text

def appendValue (fields : Store Text Text) (key value : Text) : Store Text Text :=
  match fields key with
  | some existing => fields.write (key, some (existing ++ ',' :: value))
  | none => fields.write (key, some value)

def copyHeaderLine (headers : HeaderFields) (line : HeaderLine) : HeaderFields :=
  match line.name with
  | none => headers
  | some name =>
    if sameName name kCacheControl then headers
    else
      let isContentType := sameName name kContentType
      let key := if isContentType then kContentType else name
      let hasContentTypeHeader := headers.hasContentTypeHeader || isContentType
      match line.value.or line.inferredValue with
      | none => ⟨hasContentTypeHeader, headers.fields⟩
      | some value => ⟨hasContentTypeHeader, appendValue headers.fields key value⟩

def copyHeaderLines (lines : List HeaderLine) : HeaderFields :=
  lines.foldl copyHeaderLine ⟨false, fun _ => none⟩

variable (headers : HeaderFields) (name mimeType : Text) (lines : List (Text × Text))

def addMimeType (headers : HeaderFields) : Store Text Text :=
  if headers.hasContentTypeHeader = false ∧ mimeType ≠ [] then
    headers.fields.write (kContentType, some mimeType)
  else headers.fields

/-- Keep the content type up to the first comma. -/
def cutContentType (fields : Store Text Text) : Store Text Text :=
  match fields kContentType with
  | none => fields
  | some contentType =>
    if ',' ∈ contentType then
      fields.write (kContentType, some (contentType.takeWhile (· ≠ ',')))
    else fields

def headerFields (lines : List HeaderLine) : Store Text Text :=
  (cutContentType (addMimeType mimeType (copyHeaderLines lines))).write
    (kCacheControl, some kNoStore)

def versionString (headers : HttpResponseHeaders) : Text :=
  "HTTP/".toList ++ Nat.toDigits 10 headers.majorValue ++ '.' :: Nat.toDigits 10 headers.minorValue

def getNSURLResponseForRequest (request : URLRequest) : NSURLResponse :=
  if request.schemeIsData then .plain request.mimeType (-1) request.charset
  else
    match request.responseHeaders with
    | none => .http request.responseCode "HTTP/1.1".toList (headerFields request.mimeType [])
    | some headers =>
      .http request.responseCode (versionString headers)
        (headerFields request.mimeType headers.lines)

def URLRequest.headerLines (request : URLRequest) : List HeaderLine :=
  match request.responseHeaders with
  | none => []
  | some headers => headers.lines

/-! ## What the fields should be -/

/-- A line whose name and value are UTF-8. -/
def wellEncoded (line : Text × Text) : HeaderLine := ⟨some line.1, some line.2, none⟩

def valuesOf : List Text :=
  (lines.filter fun line => sameName line.1 name).map Prod.snd

def joined (values : List Text) : Text := [','].intercalate values

def contentTypeOf : Option Text :=
  match valuesOf kContentType lines with
  | value :: _ => some (value.takeWhile (· ≠ ','))
  | [] => if mimeType = [] then none else some mimeType

/-- A header that is neither of the two the code provides for. -/
def IsOther : Prop :=
  sameName name kCacheControl = false ∧ sameName name kContentType = false

def OccursOnceAs (fields : Store Text Text) (name key value : Text) : Prop :=
  fields key = some value ∧
    ∀ other, sameName other name = true ∧ (fields other).isSome ↔ other = key

structure FieldsOf (mimeType : Text) (lines : List (Text × Text)) (fields : Store Text Text) :
    Prop where
  others : ∀ line ∈ lines, IsOther line.1 →
    ∃ key, OccursOnceAs fields line.1 key (joined (valuesOf line.1 lines))
  nothingElse : ∀ key, (fields key).isSome → IsOther key →
    ∃ line ∈ lines, sameName line.1 key = true
  contentType : fields kContentType = contentTypeOf mimeType lines ∧
    ∀ key, sameName key kContentType = true → (fields key).isSome → key = kContentType
  cacheControl : OccursOnceAs fields kCacheControl kCacheControl kNoStore

def AnswersWith (request : URLRequest) (lines : List (Text × Text)) : Prop :=
  ∃ version fields,
    getNSURLResponseForRequest request = .http request.responseCode version fields ∧
      FieldsOf request.mimeType lines fields

/-- Names of other headers that differ do so not only in letter case, and a MIME type that is
needed has no comma. -/
def NamesAgree : Prop :=
  (∀ first ∈ lines, ∀ second ∈ lines, IsOther first.1 → sameName first.1 second.1 = true →
    first.1 = second.1) ∧
    (valuesOf kContentType lines = [] → ',' ∉ mimeType)

variable {first second third name key value mimeType : Text} {lines : List (Text × Text)}
variable {line : Text × Text} {values : List Text} {fields : Store Text Text}

/-! ## Names -/

@[simp]
theorem sameName_refl (name : Text) : sameName name name = true := decide_eq_true rfl

theorem sameName_symm (same : sameName first second = true) : sameName second first = true :=
  decide_eq_true (of_decide_eq_true same).symm

/-- A name stands for every name that is the same. -/
theorem sameName_congr (same : sameName first second = true) (third : Text) :
    sameName first third = sameName second third :=
  by grind [sameName]

theorem not_contentType_of_cacheControl (same : sameName name kCacheControl = true) :
    sameName name kContentType = false := by
  rw [sameName_congr same]
  decide

theorem not_cacheControl_of_contentType (same : sameName name kContentType = true) :
    sameName name kCacheControl = false := by
  rw [sameName_congr same]
  decide

theorem IsOther.of_sameName (other : IsOther first) (same : sameName first second = true) :
    IsOther second := by
  simpa [IsOther, sameName_congr same] using other

theorem IsOther.ne (other : IsOther name) : name ≠ kCacheControl ∧ name ≠ kContentType := by
  constructor
  · rintro rfl
    cases other.1
  · rintro rfl
    cases other.2

/-! ## Values that are joined -/

theorem joined_concat (values : List Text) (value : Text) :
    joined (values ++ [value]) = if values = [] then value else joined values ++ ',' :: value := by
  unfold joined
  induction values with
  | nil => simp
  | cons _ rest ih =>
    cases rest with
    | nil => simp [List.intercalate_cons_cons]
    | cons _ _ =>
      simpa using ih

theorem takeWhile_append_comma (value rest : Text) :
    (value ++ ',' :: rest).takeWhile (· ≠ ',') = value.takeWhile (· ≠ ',') := by
  induction value with
  | nil => simp
  | cons _ _ ih => rw [List.cons_append, List.takeWhile_cons, List.takeWhile_cons, ih]

/-- Of several values what comes before the first comma is a piece of the first one. -/
theorem takeWhile_joined (value : Text) (rest : List Text) :
    (joined (value :: rest)).takeWhile (· ≠ ',') = value.takeWhile (· ≠ ',') := by
  cases rest with
  | nil => simp [joined]
  | cons _ _ =>
    apply takeWhile_append_comma

theorem takeWhile_eq_self_iff : value.takeWhile (· ≠ ',') = value ↔ ',' ∉ value := by
  grind [List.takeWhile_eq_self_iff]

/-! ## What is merged -/

def keyOf (name : Text) : Option Text :=
  if sameName name kCacheControl then none
  else if sameName name kContentType then some kContentType
  else some name

def valuesAt (key : Text) (lines : List (Text × Text)) : List Text :=
  (lines.filter fun line => keyOf line.1 = some key).map Prod.snd

def merged (values : List Text) : Option Text :=
  if values = [] then none else some (joined values)

variable (fields : Store Text Text)

theorem appendValue_eq (merges : fields key = merged values) :
    appendValue fields key value = fields.write (key, merged (values ++ [value])) := by
  unfold appendValue merged at *
  rw [merges, joined_concat]
  by_cases empty : values = [] <;> simp [empty]

theorem keyOf_cacheControl (same : sameName name kCacheControl = true) : keyOf name = none :=
  if_pos same

theorem keyOf_contentType (same : sameName name kContentType = true) :
    keyOf name = some kContentType := by
  rw [keyOf, if_neg (by simp [not_cacheControl_of_contentType same]), if_pos same]

theorem keyOf_other (other : IsOther name) : keyOf name = some name := by
  rw [keyOf, if_neg (by simp [other.1]), if_neg (by simp [other.2])]

/-- A name is one of the two the code provides for, or another one. -/
theorem name_cases (name : Text) :
    sameName name kCacheControl = true ∨ sameName name kContentType = true ∨ IsOther name := by
  unfold IsOther
  grind

theorem copyHeaderLine_wellEncoded (line : Text × Text) :
    copyHeaderLine headers (wellEncoded line) =
      match keyOf line.1 with
      | none => headers
      | some key => ⟨headers.hasContentTypeHeader || sameName line.1 kContentType,
          appendValue headers.fields key line.2⟩ := by
  rcases name_cases line.1 with control | content | other
  · simp [copyHeaderLine, wellEncoded, keyOf_cacheControl control, control]
  · simp [copyHeaderLine, wellEncoded, keyOf_contentType content, content,
      not_cacheControl_of_contentType content]
  · simp [copyHeaderLine, wellEncoded, keyOf_other other, other.1, other.2]

theorem copyHeaderLines_wellEncoded (lines : List (Text × Text)) :
    (copyHeaderLines (lines.map wellEncoded)).hasContentTypeHeader =
        (lines.any fun line => sameName line.1 kContentType) ∧
      ∀ key, (copyHeaderLines (lines.map wellEncoded)).fields key =
        merged (valuesAt key lines) := by
  induction lines using List.reverseRecOn with
  | nil => exact ⟨rfl, fun key => rfl⟩
  | append_singleton lines line ih =>
    obtain ⟨flag, fields⟩ := ih
    have copied : copyHeaderLines ((lines ++ [line]).map wellEncoded) =
        copyHeaderLine (copyHeaderLines (lines.map wellEncoded)) (wellEncoded line) := by
      simp [copyHeaderLines]
    rw [copied, copyHeaderLine_wellEncoded]
    cases made : keyOf line.1 with
    | none =>
      have control : sameName line.1 kCacheControl = true := by
        grind [name_cases, keyOf_contentType, keyOf_other]
      simp [flag, not_contentType_of_cacheControl control, fields, valuesAt, made]
    | some own =>
      refine ⟨by simp [flag], fun key => ?_⟩
      dsimp only
      rw [appendValue_eq _ (fields own)]
      by_cases same : key = own
      · subst same
        simp [valuesAt, made]
      · rw [Store.write_of_ne same, fields]
        simp [valuesAt, made, Ne.symm same]

/-! ## The fields of the response -/

theorem keyOf_eq_some : keyOf name = some key ↔
    IsOther name ∧ name = key ∨ sameName name kContentType = true ∧ key = kContentType := by
  rcases name_cases name with control | content | other
  · simp [keyOf_cacheControl control, IsOther, control, not_contentType_of_cacheControl control]
  · simp [keyOf_contentType content, IsOther, content, eq_comm (a := key)]
  · simp [keyOf_other other, other, other.2]

theorem valuesAt_contentType (lines : List (Text × Text)) :
    valuesAt kContentType lines = valuesOf kContentType lines := by
  unfold valuesAt valuesOf
  congr 2
  funext line
  apply Bool.eq_iff_iff.mpr
  rw [decide_eq_true_iff, keyOf_eq_some]
  constructor
  · rintro (⟨other, same⟩ | ⟨content, -⟩)
    · exact absurd same other.ne.2
    · exact content
  · exact fun content => .inr ⟨content, rfl⟩

theorem merged_isSome : (merged values).isSome ↔ values ≠ [] := by
  simp [merged]

/-- What is merged comes from a line whose name is the key, or is that of the content type. -/
theorem valuesAt_ne_nil : valuesAt key lines ≠ [] ↔ ∃ line ∈ lines,
    IsOther line.1 ∧ line.1 = key ∨ sameName line.1 kContentType = true ∧ key = kContentType := by
  unfold valuesAt
  rw [ne_eq, List.map_eq_nil_iff, List.filter_eq_nil_iff]
  simp only [decide_eq_true_iff, keyOf_eq_some, not_forall, not_not, exists_prop]

def cutType (mimeType : Text) (lines : List (Text × Text)) : Option Text :=
  match valuesOf kContentType lines with
  | value :: _ => some (value.takeWhile (· ≠ ','))
  | [] => if mimeType = [] then none else some (mimeType.takeWhile (· ≠ ','))

theorem addMimeType_contentType : addMimeType mimeType (copyHeaderLines (lines.map wellEncoded))
      kContentType =
    if valuesOf kContentType lines = [] then if mimeType = [] then none else some mimeType
    else some (joined (valuesOf kContentType lines)) := by
  obtain ⟨flag, fields⟩ := copyHeaderLines_wellEncoded lines
  have absent : (copyHeaderLines (lines.map wellEncoded)).hasContentTypeHeader = false ↔
      valuesOf kContentType lines = [] := by
    simp [flag, valuesOf]
  have held := fields kContentType
  rw [valuesAt_contentType, merged] at held
  by_cases none : valuesOf kContentType lines = []
  · by_cases empty : mimeType = [] <;> simp [addMimeType, absent, none, empty, held]
  · simp [addMimeType, absent, none, held]

theorem cutContentType_contentType :
    cutContentType fields kContentType =
      (fields kContentType).map fun contentType => contentType.takeWhile (· ≠ ',') := by
  unfold cutContentType
  cases found : fields kContentType with
  | none => simp [found]
  | some _ =>
    dsimp only
    split
    · rw [Store.write_self, Option.map_some]
    · next absent => rw [found, Option.map_some, takeWhile_eq_self_iff.mpr absent]

theorem headerFields_contentType :
    headerFields mimeType (lines.map wellEncoded) kContentType = cutType mimeType lines := by
  rw [headerFields, Store.write_of_ne (by decide), cutContentType_contentType,
    addMimeType_contentType, cutType]
  cases values : valuesOf kContentType lines with
  | nil => by_cases empty : mimeType = [] <;> simp [empty]
  | cons _ _ => rw [if_neg (List.cons_ne_nil _ _), Option.map_some, takeWhile_joined]

theorem headerFields_cacheControl :
    headerFields mimeType (lines.map wellEncoded) kCacheControl = some kNoStore :=
  Store.write_self

theorem cutContentType_of_ne (ne : key ≠ kContentType) :
    cutContentType fields key = fields key := by
  unfold cutContentType
  cases fields kContentType <;> grind [Store.write_of_ne]

theorem addMimeType_of_ne (ne : key ≠ kContentType) :
    addMimeType mimeType headers key = headers.fields key := by
  unfold addMimeType
  split
  · exact Store.write_of_ne ne
  · rfl

theorem headerFields_of_ne (control : key ≠ kCacheControl) (content : key ≠ kContentType) :
    headerFields mimeType (lines.map wellEncoded) key = merged (valuesAt key lines) := by
  rw [headerFields, Store.write_of_ne control, cutContentType_of_ne _ content,
    addMimeType_of_ne _ content, (copyHeaderLines_wellEncoded lines).2]

/-- A key that is there is that of a line, or is spelt as the code spells it. -/
theorem headerFields_isSome
    (found : (headerFields mimeType (lines.map wellEncoded) key).isSome) :
    key = kCacheControl ∨ key = kContentType ∨ ∃ line ∈ lines, IsOther line.1 ∧ line.1 = key := by
  grind [headerFields_of_ne, merged_isSome, valuesAt_ne_nil]

theorem headerFields_line (mem : line ∈ lines) (other : IsOther line.1) :
    (headerFields mimeType (lines.map wellEncoded) line.1).isSome := by
  grind [headerFields_of_ne, merged_isSome, valuesAt_ne_nil, other.ne]

/-- Keys that are the same name as one of the two the code provides for are spelt as it does. -/
theorem headerFields_isSome_of_not_other
    (found : (headerFields mimeType (lines.map wellEncoded) key).isSome) (named : ¬IsOther key) :
    key = kCacheControl ∨ key = kContentType := by
  grind [headerFields_isSome]

theorem cutType_eq_contentTypeOf : cutType mimeType lines = contentTypeOf mimeType lines ↔
    (valuesOf kContentType lines = [] → ',' ∉ mimeType) := by
  unfold cutType contentTypeOf
  cases valuesOf kContentType lines with
  | cons _ _ => simp
  | nil =>
    by_cases empty : mimeType = []
    · simp [empty]
    · simpa [if_neg empty] using takeWhile_eq_self_iff

/-! ## When the fields are those of the lines -/

theorem NamesAgree.of_fieldsOf
    (fieldsOf : FieldsOf mimeType lines (headerFields mimeType (lines.map wellEncoded))) :
    NamesAgree mimeType lines := by
  constructor
  · intro first firstMem second secondMem other same
    obtain ⟨key, -, once⟩ := fieldsOf.others first firstMem other
    grind [sameName_refl, headerFields_line, sameName_symm, other.of_sameName]
  · apply cutType_eq_contentTypeOf.mp
    rw [← headerFields_contentType]
    exact fieldsOf.contentType.1

/-- The lines of a header have its name in the spelling of any of them. -/
theorem valuesAt_eq_valuesOf (agree : NamesAgree mimeType lines) (mem : line ∈ lines)
    (other : IsOther line.1) : valuesAt line.1 lines = valuesOf line.1 lines := by
  unfold valuesAt valuesOf
  congr 1
  apply List.filter_congr
  intro second secondMem
  apply Bool.eq_iff_iff.mpr
  rw [decide_eq_true_iff, keyOf_eq_some]
  constructor
  · grind [sameName_refl]
  · intro same
    have spelt := agree.1 line mem second secondMem other (sameName_symm same)
    exact .inl ⟨spelt ▸ other, spelt.symm⟩

theorem NamesAgree.fieldsOf (agree : NamesAgree mimeType lines) :
    FieldsOf mimeType lines (headerFields mimeType (lines.map wellEncoded)) where
  others line mem other := by
    refine ⟨line.1, ?_, fun key => ⟨?_, ?_⟩⟩
    · rw [headerFields_of_ne other.ne.1 other.ne.2, valuesAt_eq_valuesOf agree mem other, merged,
        if_neg]
      rw [← valuesAt_eq_valuesOf agree mem other, ← ne_eq, valuesAt_ne_nil]
      exact ⟨line, mem, .inl ⟨other, rfl⟩⟩
    · rintro ⟨same, found⟩
      have keyOther := other.of_sameName (sameName_symm same)
      rcases headerFields_isSome found with control | content | ⟨second, secondMem, -, rfl⟩
      · exact absurd control keyOther.ne.1
      · exact absurd content keyOther.ne.2
      · exact (agree.1 line mem second secondMem other (sameName_symm same)).symm
    · rintro rfl
      exact ⟨sameName_refl _, headerFields_line mem other⟩
  nothingElse key found other := by
    grind [headerFields_isSome, sameName_refl, other.ne]
  contentType := by
    refine ⟨?_, fun key same found => ?_⟩
    · rw [headerFields_contentType]
      exact cutType_eq_contentTypeOf.mpr agree.2
    · rcases headerFields_isSome_of_not_other found (by simp [IsOther, same]) with rfl | content
      · cases same
      · exact content
  cacheControl := by
    refine ⟨headerFields_cacheControl, fun key => ⟨?_, ?_⟩⟩
    · rintro ⟨same, found⟩
      rcases headerFields_isSome_of_not_other found (by simp [IsOther, same]) with control | rfl
      · exact control
      · cases same
    · rintro rfl
      simp [headerFields_cacheControl]

variable {request : URLRequest}

theorem getNSURLResponseForRequest_http (http : request.schemeIsData = false) :
    ∃ version, getNSURLResponseForRequest request =
      .http request.responseCode version (headerFields request.mimeType request.headerLines) := by
  unfold getNSURLResponseForRequest URLRequest.headerLines
  rw [if_neg (by simp [http])]
  cases request.responseHeaders <;> simp

/-- The fields of a response are those of its lines exactly when no two lines have names that
differ in letter case only, and no MIME type that stands for a content type has a comma. -/
theorem answersWith_iff (http : request.schemeIsData = false)
    (encoded : request.headerLines = lines.map wellEncoded) :
    AnswersWith request lines ↔ NamesAgree request.mimeType lines := by
  obtain ⟨_, response⟩ := getNSURLResponseForRequest_http http
  rw [encoded] at response
  unfold AnswersWith
  rw [response]
  constructor
  · rintro ⟨_, _, same, fieldsOf⟩
    cases same
    exact .of_fieldsOf fieldsOf
  · intro agree
    simp [agree.fieldsOf]

def requestOf (lines : List (Text × Text)) : URLRequest :=
  ⟨false, "text/html".toList, [], 200, some ⟨lines.map wellEncoded, 1, 1⟩⟩

theorem answersWith_iff_oneCookie :
    AnswersWith (requestOf [("Set-Cookie".toList, ['a']), ("Set-Cookie".toList, ['b'])])
      [("Set-Cookie".toList, ['a']), ("Set-Cookie".toList, ['b'])] := by
  refine (answersWith_iff rfl rfl).mpr ⟨?_, fun _ => by decide⟩
  intro first firstMem second secondMem _ _
  simp only [List.mem_cons, List.not_mem_nil, or_false] at firstMem secondMem
  grind

/-- Two lines of one header become two headers when they are spelt differently. -/
theorem not_answersWith_spellings : ¬∀ (request : URLRequest) (lines : List (Text × Text)),
    request.schemeIsData = false → request.headerLines = lines.map wellEncoded →
      AnswersWith request lines := by
  intro always
  let lines := [("Set-Cookie".toList, ['a']), ("set-cookie".toList, ['b'])]
  obtain ⟨_, _, same, fieldsOf⟩ := always (requestOf lines) lines rfl rfl
  cases same
  have spelt := (NamesAgree.of_fieldsOf fieldsOf).1 ("Set-Cookie".toList, ['a']) (.head _)
    ("set-cookie".toList, ['b']) (.tail _ (.head _))
  exact absurd (spelt (by unfold IsOther; decide) (by decide)) (by decide)

end ProtocolHandlerUtil

end ChromiumIos
