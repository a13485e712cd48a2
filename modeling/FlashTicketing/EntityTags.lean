import FlashTicketing.SeatMap

namespace FlashTicketing

/-!
# Entity tags as texts

`browse` splits the `If-None-Match` header at its commas and compares the parts
with the text of the current tag.  Tags are quoted texts without a comma, so a
tag that is appended to a header is read back as one more candidate.
-/

/-! ## Headers -/

/-- `str.isspace` for one character. -/
def isSpace (char : Char) : Bool :=
  let code := char.toNat
  decide ((9 ≤ code ∧ code ≤ 13) ∨ (28 ≤ code ∧ code ≤ 32) ∨ code = 133 ∨
    code = 160 ∨ code = 5760 ∨ (8192 ≤ code ∧ code ≤ 8202) ∨ code = 8232 ∨
    code = 8233 ∨ code = 8239 ∨ code = 8287 ∨ code = 12288)

/-- `str.strip()`. -/
def strip (text : List Char) : List Char :=
  (text.dropWhile isSpace).rdropWhile isSpace

/-- `removeprefix("W/")`. -/
def strong : List Char → List Char
  | 'W' :: '/' :: rest => rest
  | text => text

/-- `[part.strip().removeprefix("W/") for part in header.split(",")]`. -/
def candidates (header : String) : List String :=
  (header.toList.splitOn ',').map fun part =>
    String.ofList (strong (strip part))

/-- A part of the header is this text, with or without the weak mark. -/
def HeaderNames (header text : String) : Prop :=
  ∃ part ∈ header.toList.splitOn ',',
    strip part = text.toList ∨ strip part = 'W' :: '/' :: text.toList

/-! ## Tags -/

/-- Hexadecimal digits, the most significant first. -/
def hexDigits (count number : Nat) : List Char :=
  (List.range count).map fun index =>
    Nat.digitChar (number / 16 ^ (count - 1 - index) % 16)

/-- `str(uuid)`. -/
def uuidText (id : Uuid) : String :=
  String.ofList
    (hexDigits 8 (id / 16 ^ 24) ++ ['-'] ++ hexDigits 4 (id / 16 ^ 20) ++
      ['-'] ++ hexDigits 4 (id / 16 ^ 16) ++ ['-'] ++
      hexDigits 4 (id / 16 ^ 12) ++ ['-'] ++ hexDigits 12 id)

/-- The texts of layout digests: `hexdigest()` has no comma. -/
structure TagTexts where
  digest : LayoutTag → String
  plain : ∀ tag, ',' ∉ (digest tag).toList

/-- The text of a tag in responses and headers. -/
def ETag.text (texts : TagTexts) : ETag → String
  | .layout tag => "\"layout:" ++ texts.digest tag ++ "\""
  | .availability eventId incarnation version =>
      "\"availability:" ++ uuidText eventId ++ ":" ++
        uuidText incarnation ++ ":" ++ toString version ++ "\""

/-- A text between quotes, without a comma. -/
def Quoted (text : String) : Prop :=
  ∃ inner, text.toList = '"' :: (inner ++ ['"']) ∧ ',' ∉ inner

theorem comma_not_mem_hexDigits (count number : Nat) :
    ',' ∉ hexDigits count number := by
  have digitChar_ne : ∀ digit < 16, Nat.digitChar digit ≠ ',' := by
    decide
  intro member
  obtain ⟨_, _, isComma⟩ := List.mem_map.mp member
  exact digitChar_ne _ (Nat.mod_lt _ (by decide)) isComma

theorem comma_not_mem_uuidText (id : Uuid) : ',' ∉ (uuidText id).toList := by
  simp [uuidText, comma_not_mem_hexDigits]

theorem comma_not_mem_digits (number : Nat) :
    ',' ∉ Nat.toDigits 10 number := by
  intro member
  have isDigit : ','.isDigit = true :=
    Nat.isDigit_of_mem_toDigits (by decide) (by decide) member
  cases isDigit

theorem ETag.text_quoted
    (texts : TagTexts)
    (tag : ETag) :
    Quoted (tag.text texts) := by
  have closing : "\"".toList = ['"'] := by
    decide
  have colon : ":".toList = [':'] := by
    decide
  cases tag with
  | layout tag =>
      have opening : "\"layout:".toList = '"' :: "layout:".toList := by
        decide
      refine ⟨"layout:".toList ++ (texts.digest tag).toList, ?_, ?_⟩
      · change ("\"layout:" ++ texts.digest tag ++ "\"").toList = _
        rw [String.toList_append, String.toList_append, opening, closing,
          List.cons_append, List.cons_append]
      · rw [List.mem_append, not_or]
        exact ⟨by decide, texts.plain tag⟩
  | availability eventId incarnation version =>
      have opening :
          "\"availability:".toList = '"' :: "availability:".toList := by
        decide
      refine ⟨"availability:".toList ++ (uuidText eventId).toList ++
        [':'] ++ (uuidText incarnation).toList ++ [':'] ++
          (toString version).toList, ?_, ?_⟩
      · change ("\"availability:" ++ uuidText eventId ++ ":" ++
          uuidText incarnation ++ ":" ++ toString version ++
            "\"").toList = _
        rw [String.toList_append, String.toList_append, String.toList_append,
          String.toList_append, String.toList_append, String.toList_append,
          opening, closing, colon]
        rfl
      · simp only [List.mem_append, not_or, Nat.toString_eq_repr,
          Nat.toList_repr]
        exact ⟨⟨⟨⟨⟨by decide, comma_not_mem_uuidText eventId⟩, by decide⟩,
          comma_not_mem_uuidText incarnation⟩, by decide⟩,
          comma_not_mem_digits version⟩

namespace Quoted

variable {text : String}

theorem plain (quoted : Quoted text) : ',' ∉ text.toList := by
  obtain ⟨inner, isText, plain⟩ := quoted
  rw [isText]
  simp [plain]

theorem strip_eq (quoted : Quoted text) :
    strip text.toList = text.toList := by
  obtain ⟨inner, isText, _⟩ := quoted
  have solid : isSpace '"' = false := by
    decide
  rw [isText, strip, List.dropWhile_cons_of_neg (by simp [solid]),
    ← List.cons_append, List.rdropWhile_concat_neg _ _ _ (by simp [solid])]

theorem strong_eq (quoted : Quoted text) :
    strong text.toList = text.toList := by
  obtain ⟨inner, isText, _⟩ := quoted
  rw [isText]
  rfl

theorem ne_any (quoted : Quoted text) : text ≠ "*" := by
  obtain ⟨inner, isText, _⟩ := quoted
  rintro rfl
  have star : "*".toList = ['*'] := by
    decide
  rw [star] at isText
  simp at isText

/-- A quoted text after a comma is one more candidate. -/
theorem candidates_append
    (quoted : Quoted text)
    (header : String) :
    candidates (header ++ "," ++ text) = candidates header ++ [text] := by
  have comma : ",".toList = [','] := by
    decide
  have split :
      (header ++ "," ++ text).toList.splitOn ',' =
        header.toList.splitOn ',' ++ [text.toList] := by
    rw [String.toList_append, String.toList_append, comma,
      List.append_assoc, List.singleton_append,
      List.splitOn_append_cons_self, List.splitOn_eq_singleton quoted.plain]
  rw [candidates, split, List.map_append, List.map_singleton,
    quoted.strip_eq, quoted.strong_eq, String.ofList_toList]
  rfl

end Quoted

/-! ## Matching -/

/-- A part is read as a text exactly when it is that text, weak or strong. -/
theorem strong_eq_iff
    {text part : List Char}
    (unmarked : ∀ rest, text ≠ 'W' :: '/' :: rest) :
    strong part = text ↔ part = text ∨ part = 'W' :: '/' :: text := by
  unfold strong
  split
  · rename_i rest
    constructor
    · rintro rfl
      exact Or.inr rfl
    · rintro (isText | isWeak)
      · exact absurd isText.symm (unmarked rest)
      · cases isWeak
        rfl
  · rename_i notWeak
    constructor
    · exact Or.inl
    · rintro (isText | isWeak)
      · exact isText
      · exact absurd isWeak (notWeak text)

theorem mem_candidates
    {header text : String}
    (unmarked : ∀ rest, text.toList ≠ 'W' :: '/' :: rest) :
    text ∈ candidates header ↔ HeaderNames header text := by
  unfold candidates HeaderNames
  rw [List.mem_map]
  constructor
  · rintro ⟨part, member, rfl⟩
    rw [String.toList_ofList] at unmarked ⊢
    exact ⟨part, member, (strong_eq_iff unmarked).mp rfl⟩
  · rintro ⟨part, member, isText⟩
    refine ⟨part, member, ?_⟩
    rw [(strong_eq_iff unmarked).mpr isText, String.ofList_toList]

theorem any_unmarked (rest : List Char) : "*".toList ≠ 'W' :: '/' :: rest := by
  have star : "*".toList = ['*'] := by
    decide
  rw [star]
  simp

theorem Quoted.unmarked
    {text : String}
    (quoted : Quoted text)
    (rest : List Char) :
    text.toList ≠ 'W' :: '/' :: rest := by
  obtain ⟨inner, isText, _⟩ := quoted
  rw [isText]
  simp

/-- `"*" in tags or tag in tags`. -/
def Matches (tags : List String) (tag : String) : Prop :=
  "*" ∈ tags ∨ tag ∈ tags

instance (tags : List String) (tag : String) : Decidable (Matches tags tag) :=
  inferInstanceAs (Decidable (_ ∨ _))

theorem matches_candidates
    {header tag : String}
    (quoted : Quoted tag) :
    Matches (candidates header) tag ↔
      HeaderNames header "*" ∨ HeaderNames header tag :=
  or_congr (mem_candidates any_unmarked) (mem_candidates quoted.unmarked)

end FlashTicketing
