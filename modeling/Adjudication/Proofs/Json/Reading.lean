import Adjudication.Json.Decode
import Adjudication.Proofs.Json.Tokens

/-!
# Reading values

Whatever text of a value is read, the tree is the same, and the whole text is read. `Document.ofString_of_writtenAs` says
so; it comes from `Data.reads`, which takes a value off the front of a text by induction on the value, the fuel going
down with the text.
-/

namespace Adjudication.Json

mutual

/-- The tree that reading a value gives. -/
def Data.tree : Data → Tree
  | .null => .null
  | .boolean value => .boolean value
  | .number spelling => .number spelling
  | .string text => .string (some text)
  | .array items => .array (itemTrees items)
  | .object members => .object (memberTrees members)

def itemTrees : List Data → Items
  | [] => .close
  | item :: items => .item item.tree (itemTrees items)

def memberTrees : List (String × Data) → Members
  | [] => .close
  | (key, value) :: members => .member (some key) value.tree (memberTrees members)

end

/-! ### The next token of a text -/

theorem isBlank_of_isDigit {c : Char} (digit : c.isDigit) : isBlank c = false := by
  by_contra blank
  simp only [isBlank, Bool.not_eq_false, Bool.or_eq_true, decide_eq_true_eq] at blank
  rcases blank with ((rfl | rfl) | rfl) | rfl <;> exact absurd digit (by decide)

namespace Token

theorem Spells.head {token : Token} {s : List Char} (spelled : token.Spells s) :
    ∃ c rest, s = c :: rest ∧ isBlank c = false := by
  cases spelled with
  | mark mark => cases mark <;> exact ⟨_, [], rfl, by decide⟩
  | null => exact ⟨_, _, rfl, by decide⟩
  | yes | no => exact ⟨_, _, rfl, by decide⟩
  | string => exact ⟨_, _, rfl, by decide⟩
  | number spelled =>
    obtain ⟨c, rest, rfl, rfl | digit⟩ := spelled.head
    · exact ⟨_, rest, rfl, by decide⟩
    · exact ⟨c, rest, rfl, isBlank_of_isDigit digit⟩

end Token

namespace Written

variable {token : Token} {mark : Mark} {tokens more : List Token} {text : List Char}

/-- A text of tokens starts with blanks and the spelling of the first of them. -/
theorem split (written : Written (token :: tokens) text) :
    ∃ s rest, token.Spells s ∧ skipBlanks text = s ++ rest ∧ Written tokens rest ∧ rest.length < text.length := by
  cases written with
  | @token _ _ before s rest blank spelled written =>
    refine ⟨s, rest, spelled, ?_, written, ?_⟩
    · obtain ⟨c, more, rfl, visible⟩ := spelled.head
      rw [skipBlanks_append blank, List.cons_append, skipBlanks_cons visible]
    · obtain ⟨c, more, rfl, visible⟩ := spelled.head
      simp only [List.length_append, List.length_cons]
      omega

theorem skipped (written : Written tokens text) : Written tokens (skipBlanks text) := by
  cases tokens with
  | nil =>
    obtain ⟨blank⟩ := written
    rw [skipBlanks_eq_nil blank]
    exact nil
  | cons token tokens =>
    obtain ⟨s, rest, spelled, same, later, -⟩ := written.split
    rw [same]
    exact .cons spelled later

theorem split_mark (written : Written (.mark mark :: tokens) text) :
    ∃ rest, skipBlanks text = mark.char :: rest ∧ Written tokens rest ∧ rest.length < text.length := by
  obtain ⟨_, rest, ⟨⟩, skipped, later, shorter⟩ := written.split
  exact ⟨rest, skipped, later, shorter⟩

theorem split_string {string : String} (written : Written (.string string :: tokens) text) :
    ∃ s rest, skipBlanks text = '"' :: s ∧ string? s = some (some string, rest) ∧ Written tokens rest ∧
      rest.length < text.length := by
  obtain ⟨_, rest, spelled, skipped, later, shorter⟩ := written.split
  cases spelled with
  | @string _ s spelled =>
    exact ⟨s ++ '"' :: rest, rest, by simpa using skipped, string?_append spelled rest, later, shorter⟩

end Written

/-- What may follow a value among tokens: nothing, or a mark. -/
def Ends (more : List Token) : Prop := ∀ token ∈ more.head?, ∃ mark, token = .mark mark

theorem Ends.mark (mark : Mark) (more : List Token) : Ends (.mark mark :: more) := by
  rintro _ ⟨⟩
  exact ⟨mark, rfl⟩

theorem Ends.stops {more : List Token} {text : List Char} (ends : Ends more) (written : Written more text) :
    Stops text := by
  have blankStops : ∀ c, isBlank c → isNumberPart c = false := by
    intro c blank
    simp only [isBlank, Bool.or_eq_true, decide_eq_true_eq] at blank
    rcases blank with ((rfl | rfl) | rfl) | rfl <;> decide
  intro c first
  cases written with
  | blank blank => exact blankStops c (blank c (List.mem_of_mem_head? first))
  | @token token tokens before s rest blank spelled written =>
    cases before with
    | cons d before =>
      cases first
      exact blankStops c (blank c List.mem_cons_self)
    | nil =>
      obtain ⟨mark, rfl⟩ := ends token rfl
      cases spelled
      cases first
      cases mark <;> decide

/-! ### Values -/

/-- Reading takes a value off the front of any text of it. -/
def Data.Reads (v : Data) : Prop :=
  ∀ {more text fuel}, Written (v.tokens ++ more) text → Ends more → 3 * text.length ≤ fuel →
    ∃ rest, readTree fuel text = (v.tree, some rest) ∧ Written more rest ∧ rest.length < text.length

theorem readTree_number {n : Number} {s text rest : List Char} (fuel : Nat) (spelled : n.Spells s)
    (skipped : skipBlanks text = s ++ rest) (stops : Stops rest) :
    readTree (fuel + 1) text = (.number n, some rest) := by
  obtain ⟨d, unsigned, rfl, digit, read⟩ := number?_append spelled stops
  rw [readTree, skipped]
  rw [List.cons_append] at read
  cases negative : n.negative with
  | true =>
    rw [negative] at read
    simp [readTree.readNumber, read]
  | false =>
    rw [negative] at read
    simp only [Bool.false_eq_true, if_false, List.nil_append, List.cons_append]
    split
    all_goals try (rename_i same; cases same; exact absurd digit (by decide))
    simp [readTree.readNumber, read]

/-- A value before a mark is read, and then the mark is next. -/
theorem Data.Reads.before_mark {v : Data} (reads : v.Reads) {mark : Mark} {more : List Token} {text : List Char}
    {fuel : Nat} (written : Written (v.tokens ++ .mark mark :: more) text) (enough : 3 * text.length ≤ fuel) :
    ∃ rest later, readTree fuel text = (v.tree, some rest) ∧ skipBlanks rest = mark.char :: later ∧
      Written more later ∧ later.length < text.length := by
  obtain ⟨rest, read, written, taken⟩ := reads written (.mark mark more) enough
  obtain ⟨later, next, written, markTaken⟩ := written.split_mark
  exact ⟨rest, later, read, next, written, by omega⟩

/-- The items of an array after its opening bracket, of which there is at least one. -/
theorem readItem_written {item : Data} {items : List Data} (first : item.Reads) (each : ∀ v ∈ items, v.Reads)
    {more : List Token} {text : List Char} {fuel : Nat}
    (written : Written (List.intercalate [.mark .comma] (itemTokens (item :: items)) ++ .mark .closeArray :: more) text)
    (enough : 3 * text.length ≤ fuel) :
    ∃ rest, readItem (fuel + 1) text = (itemTrees (item :: items), some rest) ∧ Written more rest ∧
      rest.length < text.length := by
  induction items generalizing item text fuel with
  | nil =>
    simp only [itemTokens, List.intercalate_singleton] at written
    obtain ⟨rest, later, read, next, written, taken⟩ := first.before_mark written enough
    refine ⟨later, ?_, written, taken⟩
    simp [readItem, read, next, Mark.char, itemTrees]
  | cons second items ih =>
    simp only [itemTokens, List.intercalate_cons_cons, List.append_assoc] at written
    obtain ⟨rest, later, read, next, written, taken⟩ := first.before_mark written enough
    obtain ⟨second, each⟩ := List.forall_mem_cons.mp each
    obtain ⟨fuel, rfl⟩ := Nat.exists_eq_succ_of_ne_zero (show fuel ≠ 0 by omega)
    have enough : 3 * later.length ≤ fuel := by omega
    obtain ⟨last, readRest, written, restTaken⟩ := ih second each written enough
    refine ⟨last, ?_, written, by omega⟩
    rw [readItem, read]
    simp [next, Mark.char, readRest, itemTrees]

/-- No value starts like the end of an array. -/
theorem Data.tokens_eq_cons (v : Data) :
    ∃ token tokens, v.tokens = token :: tokens ∧ ∀ s, token.Spells s → ∃ c rest, s = c :: rest ∧ c ≠ ']' := by
  cases v with
  | null | boolean | string | array | object =>
    refine ⟨_, _, rfl, ?_⟩
    rintro _ ⟨⟩ <;> exact ⟨_, _, rfl, by decide⟩
  | number n =>
    refine ⟨_, _, rfl, ?_⟩
    rintro _ (_ | _ | _ | _ | spelled)
    obtain ⟨c, rest, rfl, rfl | digit⟩ := spelled.head
    · exact ⟨_, rest, rfl, by decide⟩
    · refine ⟨c, rest, rfl, ?_⟩
      rintro rfl
      exact absurd digit (by decide)

theorem intercalate_cons_eq (token : Token) (tokens : List Token) (rest : List (List Token)) :
    ∃ more, List.intercalate [.mark .comma] ((token :: tokens) :: rest) = token :: more := by
  cases rest with
  | nil => exact ⟨tokens, List.intercalate_singleton⟩
  | cons next rest => exact ⟨_, List.intercalate_cons_cons⟩

theorem readItems_written {items : List Data} (each : ∀ v ∈ items, v.Reads)
    {more : List Token} {text : List Char} {fuel : Nat}
    (written : Written (List.intercalate [.mark .comma] (itemTokens items) ++ .mark .closeArray :: more) text)
    (enough : 3 * text.length ≤ fuel) :
    ∃ rest, readItems (fuel + 2) text = (itemTrees items, some rest) ∧ Written more rest ∧
      rest.length < text.length := by
  cases items with
  | nil =>
    obtain ⟨rest, next, written, taken⟩ := written.split_mark
    refine ⟨rest, ?_, written, taken⟩
    rw [readItems, next]
    rfl
  | cons item items =>
    obtain ⟨first, each⟩ := List.forall_mem_cons.mp each
    obtain ⟨token, tokens, tokenized, head⟩ := item.tokens_eq_cons
    obtain ⟨later, starts⟩ := tokenized ▸ intercalate_cons_eq token tokens (itemTokens items)
    obtain ⟨s, _, spelled, next, -⟩ := (starts ▸ written).split
    obtain ⟨c, s, rfl, notEnd⟩ := head s spelled
    have skipped : (skipBlanks text).length ≤ text.length := List.length_dropWhile_le _ _
    have enough : 3 * (skipBlanks text).length ≤ fuel := by omega
    obtain ⟨rest, read, written, taken⟩ := readItem_written first each written.skipped enough
    refine ⟨rest, ?_, written, by omega⟩
    rw [← read, readItems, next]
    split
    · rename_i same
      cases same
      exact absurd rfl notEnd
    · rfl

/-- The key and the value of a member before a mark are read, and then the mark is next. -/
theorem member_before_mark {key : String} {value : Data} (reads : value.Reads) {mark : Mark} {more : List Token}
    {text : List Char} {fuel : Nat}
    (written : Written (.string key :: .mark .colon :: (value.tokens ++ .mark mark :: more)) text)
    (enough : 3 * text.length ≤ fuel) :
    ∃ s afterKey afterColon rest later, skipBlanks text = '"' :: s ∧ string? s = some (some key, afterKey) ∧
      skipBlanks afterKey = ':' :: afterColon ∧ readTree fuel afterColon = (value.tree, some rest) ∧
      skipBlanks rest = mark.char :: later ∧ Written more later ∧ later.length < text.length := by
  obtain ⟨s, afterKey, startsKey, keyRead, written, keyTaken⟩ := written.split_string
  obtain ⟨afterColon, startsColon, written, colonTaken⟩ := written.split_mark
  have enough : 3 * afterColon.length ≤ fuel := by omega
  obtain ⟨rest, later, read, next, written, taken⟩ := reads.before_mark written enough
  exact ⟨s, afterKey, afterColon, rest, later, startsKey, keyRead, startsColon, read, next, written, by omega⟩

/-- The members of an object after its opening brace, of which there is at least one. -/
theorem readMember_written {key : String} {value : Data} {members : List (String × Data)} (first : value.Reads)
    (each : ∀ m ∈ members, m.2.Reads) {more : List Token} {text : List Char} {fuel : Nat}
    (written : Written
      (List.intercalate [.mark .comma] (memberTokens ((key, value) :: members)) ++ .mark .closeObject :: more) text)
    (enough : 3 * text.length ≤ fuel) :
    ∃ rest, readMember (fuel + 1) text = (memberTrees ((key, value) :: members), some rest) ∧ Written more rest ∧
      rest.length < text.length := by
  induction members generalizing key value text fuel with
  | nil =>
    simp only [memberTokens, List.intercalate_singleton, List.cons_append] at written
    obtain ⟨s, afterKey, afterColon, rest, later, startsKey, keyRead, startsColon, read, next, written, taken⟩ :=
      member_before_mark first written enough
    refine ⟨later, ?_, written, taken⟩
    simp [readMember, startsKey, keyRead, startsColon, read, next, Mark.char, memberTrees]
  | cons second members ih =>
    obtain ⟨secondKey, secondValue⟩ := second
    simp only [memberTokens, List.intercalate_cons_cons, List.append_assoc, List.cons_append] at written
    obtain ⟨s, afterKey, afterColon, rest, later, startsKey, keyRead, startsColon, read, next, written, taken⟩ :=
      member_before_mark first written enough
    obtain ⟨second, each⟩ := List.forall_mem_cons.mp each
    obtain ⟨fuel, rfl⟩ := Nat.exists_eq_succ_of_ne_zero (show fuel ≠ 0 by omega)
    have enough : 3 * later.length ≤ fuel := by omega
    obtain ⟨last, readRest, written, restTaken⟩ := ih second each written enough
    refine ⟨last, ?_, written, by omega⟩
    rw [readMember, startsKey]
    simp [keyRead, startsColon, read, next, Mark.char, readRest, memberTrees]

theorem readMembers_written {members : List (String × Data)} (each : ∀ m ∈ members, m.2.Reads)
    {more : List Token} {text : List Char} {fuel : Nat}
    (written : Written (List.intercalate [.mark .comma] (memberTokens members) ++ .mark .closeObject :: more) text)
    (enough : 3 * text.length ≤ fuel) :
    ∃ rest, readMembers (fuel + 2) text = (memberTrees members, some rest) ∧ Written more rest ∧
      rest.length < text.length := by
  cases members with
  | nil =>
    obtain ⟨rest, next, written, taken⟩ := written.split_mark
    refine ⟨rest, ?_, written, taken⟩
    rw [readMembers, next]
    rfl
  | cons member members =>
    obtain ⟨key, value⟩ := member
    obtain ⟨first, each⟩ := List.forall_mem_cons.mp each
    obtain ⟨later, starts⟩ :=
      intercalate_cons_eq (.string key) (.mark .colon :: value.tokens) (memberTokens members)
    have keyed : Written (.string key :: later ++ .mark .closeObject :: more) text := starts ▸ written
    obtain ⟨s, _, next, -⟩ := keyed.split_string
    have skipped : (skipBlanks text).length ≤ text.length := List.length_dropWhile_le _ _
    have enough : 3 * (skipBlanks text).length ≤ fuel := by omega
    obtain ⟨rest, read, written, taken⟩ := readMember_written first each written.skipped enough
    refine ⟨rest, ?_, written, by omega⟩
    rw [← read, readMembers, next]
    rfl

theorem Data.reads_array {items : List Data} (each : ∀ v ∈ items, v.Reads) : (Data.array items).Reads := by
  intro more text fuel written _ enough
  rw [tokens, List.cons_append, List.append_assoc] at written
  obtain ⟨inside, next, written, openTaken⟩ := written.split_mark
  -- From an array to the value inside it there are three calls, and the bracket pays for them.
  obtain ⟨fuel, rfl⟩ := Nat.exists_eq_add_of_le (show 3 ≤ fuel by omega)
  have enough : 3 * inside.length ≤ fuel := by omega
  obtain ⟨rest, read, written, taken⟩ := readItems_written each written enough
  refine ⟨rest, ?_, written, by omega⟩
  rw [Nat.add_comm]
  simp only [readTree, next, Mark.char, read, tree]

theorem Data.reads_object {members : List (String × Data)} (each : ∀ m ∈ members, m.2.Reads) :
    (Data.object members).Reads := by
  intro more text fuel written _ enough
  rw [tokens, List.cons_append, List.append_assoc] at written
  obtain ⟨inside, next, written, openTaken⟩ := written.split_mark
  obtain ⟨fuel, rfl⟩ := Nat.exists_eq_add_of_le (show 3 ≤ fuel by omega)
  have enough : 3 * inside.length ≤ fuel := by omega
  obtain ⟨rest, read, written, taken⟩ := readMembers_written each written enough
  refine ⟨rest, ?_, written, by omega⟩
  rw [Nat.add_comm]
  simp only [readTree, next, Mark.char, read, tree]

theorem Data.reads_of_token {v : Data} {token : Token} (single : v.tokens = [token])
    (read : ∀ {s text rest} fuel, token.Spells s → skipBlanks text = s ++ rest → Stops rest →
      readTree (fuel + 1) text = (v.tree, some rest)) : v.Reads := by
  intro more text fuel written ends enough
  rw [single] at written
  obtain ⟨s, rest, spelled, skipped, later, taken⟩ := written.split
  obtain ⟨fuel, rfl⟩ := Nat.exists_eq_add_of_lt (show 0 < fuel by omega)
  exact ⟨rest, read _ spelled skipped (ends.stops later), later, taken⟩

/-- Reading takes any value off the front of any text of it. -/
theorem Data.reads (v : Data) : v.Reads := by
  induction v with
  | null =>
    refine reads_of_token rfl fun fuel spelled skipped _ => ?_
    cases spelled with
    | null => rw [readTree, skipped]; rfl
  | boolean value =>
    refine reads_of_token rfl fun fuel spelled skipped _ => ?_
    cases spelled with
    | yes | no => rw [readTree, skipped]; rfl
  | number n =>
    refine reads_of_token rfl fun fuel spelled skipped stops => ?_
    cases spelled with
    | number spelled => exact readTree_number fuel spelled skipped stops
  | string text =>
    refine reads_of_token rfl fun {_ _ rest} fuel spelled skipped _ => ?_
    cases spelled with
    | string spelled => simp [readTree, skipped, string?_append spelled rest, tree]
  | array items ih => exact reads_array ih
  | object members ih => exact reads_object ih

/-- Reading a text of a value gives its tree, and nothing but blanks is left. -/
theorem Document.ofString_of_writtenAs {v : Data} {text : String} (written : v.WrittenAs text) :
    Document.ofString text = ⟨v.tree, true⟩ := by
  have complete : Written (v.tokens ++ []) text.toList := by
    rw [List.append_nil]
    exact written
  have enough : 3 * text.toList.length ≤ 3 * text.toList.length + 3 := Nat.le_add_right _ _
  obtain ⟨rest, read, blank, -⟩ := v.reads complete nofun enough
  cases blank with
  | blank blank => simp [Document.ofString, Tree.ofChars, read, skipBlanks_eq_nil blank]

theorem decodeText_of_writtenAs {α : Type} {v : Data} {text : String} (written : v.WrittenAs text)
    (decoder : Decoder α) : decodeText decoder text = decoder v.tree := by
  rw [decodeText, Document.ofString_of_writtenAs written]
  exact bind_pure _

end Adjudication.Json
