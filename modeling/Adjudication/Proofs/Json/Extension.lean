import Adjudication.Proofs.Json.Tokens
import Adjudication.Json.Reader
import Mathlib.Data.List.Basic

/-!
# Reading a text that goes on

What is read off the front of a text is read off the front of every longer text, and what is left of it is longer by
just as much. Only a number may go on where the text does. `readTree_append` says so; nothing is assumed of the text but
that a value could be read.
-/

namespace Adjudication.Json

variable {s t rest : List Char}

/-! ### Blanks and words -/

theorem skipBlanks_append_of_cons {c : Char} (next : skipBlanks s = c :: rest) (t : List Char) :
    skipBlanks (s ++ t) = c :: (rest ++ t) := by
  unfold skipBlanks at next ⊢
  rw [List.dropWhile_append, next]
  rfl

theorem isPrefixOf?_append {word : List Char} (read : word.isPrefixOf? s = some rest) (t : List Char) :
    word.isPrefixOf? (s ++ t) = some (rest ++ t) := by
  rw [List.isPrefixOf?_eq_some_iff_append_eq] at read ⊢
  rw [← read, List.append_assoc]

/-! ### Numbers -/

theorem digits?_spells {digits : List Char} (read : digits? s = some (digits, rest)) :
    s = digits ++ rest ∧ Digits digits := by
  unfold digits? spanDigits at read
  rw [List.span_eq_takeWhile_dropWhile] at read
  split at read
  · cases read
  · rename_i spanned
    cases read
    obtain ⟨rfl, rfl⟩ := Prod.mk.inj spanned
    exact ⟨List.takeWhile_append_dropWhile.symm, ‹_›, fun c taken => List.mem_takeWhile_imp taken⟩

theorem whole?_spells {whole : List Char} (read : whole? s = some (whole, rest)) :
    s = whole ++ rest ∧ Digits whole ∧ (whole = ['0'] ∨ whole.head? ≠ some '0') := by
  unfold whole? at read
  split at read
  · cases read
  · rename_i plain
    obtain ⟨same, ok⟩ := digits?_spells read
    refine ⟨same, ok, ?_⟩
    match whole with
    | [] => exact .inr nofun
    | [c] =>
      by_cases zero : c = '0'
      · exact .inl (by rw [zero])
      · exact .inr fun first => zero (Option.some.inj first)
    | c :: d :: whole =>
      refine .inr fun first => ?_
      cases first
      exact plain _ _ _ read

theorem fraction?_spells {fraction : Option (List Char)} (read : fraction? s = some (fraction, rest)) :
    ∃ f, FractionSpells fraction f ∧ s = f ++ rest := by
  unfold fraction? at read
  split at read
  · obtain ⟨⟨digits, _⟩, found, same⟩ := Option.map_eq_some_iff.mp read
    cases same
    obtain ⟨rfl, ok⟩ := digits?_spells found
    exact ⟨_, .present ok, rfl⟩
  · cases read
    exact ⟨[], .absent, rfl⟩

theorem marked_spells {mark : Char} {digits : List Char} (letter : mark = 'e' ∨ mark = 'E')
    (read : digits? (Text.spanSign s).2 = some (digits, rest)) :
    ∃ e, ExponentSpells (some ((Text.spanSign s).1, digits)) e ∧ mark :: s = e ++ rest := by
  obtain ⟨same, ok⟩ := digits?_spells read
  unfold Text.spanSign at same ⊢
  split at same
  · cases same
    exact ⟨_, .plus letter ok, rfl⟩
  · cases same
    exact ⟨_, .minus letter ok, rfl⟩
  · cases same
    exact ⟨_, .plain letter ok, rfl⟩

theorem exponent?_spells {exponent : Option (Bool × List Char)} (read : exponent? s = some (exponent, rest)) :
    ∃ e, ExponentSpells exponent e ∧ s = e ++ rest := by
  unfold exponent? at read
  split at read
  · obtain ⟨⟨digits, _⟩, found, same⟩ := Option.map_eq_some_iff.mp read
    cases same
    exact marked_spells (.inl rfl) found
  · obtain ⟨⟨digits, _⟩, found, same⟩ := Option.map_eq_some_iff.mp read
    cases same
    exact marked_spells (.inr rfl) found
  · cases read
    exact ⟨[], .absent, rfl⟩

theorem number?_spells {n : Number} {negative : Bool} (read : number? negative s = some (n, rest)) :
    n.negative = negative ∧
      ∃ unsigned, n.Spells ((if negative then ['-'] else []) ++ unsigned) ∧ s = unsigned ++ rest := by
  simp only [number?, Option.bind_eq_bind, Option.bind_eq_some_iff] at read
  obtain ⟨⟨whole, afterWhole⟩, wholeRead, ⟨fraction, afterFraction⟩, fractionRead, ⟨exponent, _⟩, exponentRead, same⟩ :=
    read
  cases same
  obtain ⟨rfl, ok, lead⟩ := whole?_spells wholeRead
  obtain ⟨f, fractional, rfl⟩ := fraction?_spells fractionRead
  obtain ⟨e, exponential, rfl⟩ := exponent?_spells exponentRead
  exact ⟨rfl, whole ++ (f ++ e), .intro ok lead fractional exponential, by simp⟩

theorem number?_extends {n : Number} {negative : Bool} (read : number? negative s = some (n, rest))
    (stops : Stops (rest ++ t)) : number? negative (s ++ t) = some (n, rest ++ t) := by
  obtain ⟨rfl, unsigned, spelled, rfl⟩ := number?_spells read
  obtain ⟨d, digits, same, -, again⟩ := number?_append spelled stops
  cases List.append_cancel_left same
  rwa [List.append_assoc]

/-! ### Strings -/

theorem pieces?_extends {pieces : List Piece} (read : pieces? s = some (pieces, rest)) (t : List Char) :
    pieces? (s ++ t) = some (pieces, rest ++ t) := by
  induction s using pieces?.induct generalizing pieces with
  | case1 => cases read
  | case2 =>
    cases read
    rfl
  | case3 a b c d s ih =>
    rw [pieces?.eq_3] at read
    simp only [Option.bind_eq_bind, Option.bind_eq_some_iff] at read
    obtain ⟨code, unit, ⟨after, _⟩, found, same⟩ := read
    cases same
    simp [pieces?.eq_3, unit, ih found]
  | case4 e s short ih =>
    rw [pieces?.eq_4 e s short] at read
    simp only [Option.bind_eq_bind, Option.bind_eq_some_iff] at read
    obtain ⟨c, escape, ⟨after, _⟩, found, same⟩ := read
    cases same
    have notUnit : e ≠ 'u' := by
      rintro rfl
      cases escape
    have again := pieces?.eq_4 e (s ++ t) fun _ _ _ _ _ unit => absurd unit notUnit
    simp [again, escape, ih found]
  | case5 c s not_quote long short bad =>
    rw [pieces?.eq_5 c s not_quote long short, if_pos bad] at read
    cases read
  | case6 c s not_quote long short plain ih =>
    obtain ⟨visible, not_backslash⟩ : 0x20 ≤ c.toNat ∧ c ≠ '\\' := by simpa using plain
    rw [pieces?_plain visible not_quote not_backslash] at read
    obtain ⟨⟨after, _⟩, found, same⟩ := Option.map_eq_some_iff.mp read
    cases same
    rw [List.cons_append, pieces?_plain visible not_quote not_backslash, ih found]
    rfl

theorem string?_extends {text : Option String} (read : string? s = some (text, rest)) (t : List Char) :
    string? (s ++ t) = some (text, rest ++ t) := by
  obtain ⟨⟨pieces, _⟩, found, same⟩ := Option.map_eq_some_iff.mp read
  cases same
  rw [string?, pieces?_extends found]
  rfl

/-! ### Values -/

theorem isNumberPart_of_isBlank {c : Char} (blank : isBlank c) : isNumberPart c = false := by
  simp only [isBlank, Bool.or_eq_true, decide_eq_true_eq] at blank
  rcases blank with ((rfl | rfl) | rfl) | rfl <;> decide

theorem stops_of_next {c : Char} (next : skipBlanks s = c :: rest) (plain : isNumberPart c = false) (t : List Char) :
    Stops (s ++ t) := by
  cases s with
  | nil => cases next
  | cons d s =>
    rintro _ ⟨⟩
    cases blank : isBlank d with
    | true => exact isNumberPart_of_isBlank blank
    | false =>
      rw [skipBlanks_cons blank] at next
      cases next
      exact plain

theorem readWord_extends {word : List Char} {value tree : Tree} (read : readTree.readWord word value s = (tree, some rest))
    (t : List Char) : readTree.readWord word value (s ++ t) = (tree, some (rest ++ t)) := by
  unfold readTree.readWord at read ⊢
  split at read
  · rename_i found
    cases read
    rw [isPrefixOf?_append found]
  · cases read

theorem readNumber_extends {negative : Bool} {tree : Tree} (read : readTree.readNumber negative s = (tree, some rest))
    (stops : ∀ n, tree = .number n → Stops (rest ++ t)) :
    readTree.readNumber negative (s ++ t) = (tree, some (rest ++ t)) := by
  unfold readTree.readNumber at read ⊢
  split at read
  · rename_i found
    cases read
    rw [number?_extends found (stops _ rfl)]
  · cases read

theorem readTree_nil (fuel : Nat) : readTree fuel [] = (.broken, none) := by
  cases fuel <;> rfl

theorem readItem_nil (fuel : Nat) : (readItem fuel []).2 = none := by
  cases fuel with
  | zero => rfl
  | succ fuel => rw [readItem, readTree_nil]

theorem readMember_nil (fuel : Nat) : (readMember fuel []).2 = none := by
  cases fuel <;> rfl

theorem readItems_of_ne {c : Char} {fuel : Nat} (next : skipBlanks s = c :: rest) (notEnd : c ≠ ']') :
    readItems (fuel + 1) s = readItem fuel (c :: rest) := by
  rw [readItems, next]
  split
  · rename_i same
    cases same
    exact absurd rfl notEnd
  · rfl

theorem readMembers_of_ne {c : Char} {fuel : Nat} (next : skipBlanks s = c :: rest) (notEnd : c ≠ '\x7d') :
    readMembers (fuel + 1) s = readMember fuel (c :: rest) := by
  rw [readMembers, next]
  split
  · rename_i same
    cases same
    exact absurd rfl notEnd
  · rfl

/-- What the readers make of a text with some fuel, they make of a longer text with as much fuel or more. -/
structure Extends (fuel : Nat) : Prop where
  tree : ∀ {s t tree rest} extra, readTree fuel s = (tree, some rest) →
    (∀ n, tree = .number n → Stops (rest ++ t)) → readTree (extra + fuel) (s ++ t) = (tree, some (rest ++ t))
  items : ∀ {s items rest} extra t, readItems fuel s = (items, some rest) →
    readItems (extra + fuel) (s ++ t) = (items, some (rest ++ t))
  item : ∀ {s items rest} extra t, readItem fuel s = (items, some rest) →
    readItem (extra + fuel) (s ++ t) = (items, some (rest ++ t))
  members : ∀ {s members rest} extra t, readMembers fuel s = (members, some rest) →
    readMembers (extra + fuel) (s ++ t) = (members, some (rest ++ t))
  member : ∀ {s members rest} extra t, readMember fuel s = (members, some rest) →
    readMember (extra + fuel) (s ++ t) = (members, some (rest ++ t))

namespace Extends

variable {fuel : Nat}

theorem readItem_succ (below : Extends fuel) {items : Items} (extra : Nat) (t : List Char)
    (read : readItem (fuel + 1) s = (items, some rest)) :
    readItem (extra + fuel + 1) (s ++ t) = (items, some (rest ++ t)) := by
  rw [readItem] at read
  split at read
  · cases read
  · rename_i tree later treeRead
    split at read
    · rename_i next
      cases read
      have again := below.tree extra treeRead fun _ _ => stops_of_next next (by decide) t
      simp [readItem, again, skipBlanks_append_of_cons next]
    · rename_i next
      have again := below.tree extra treeRead fun _ _ => stops_of_next next (by decide) t
      generalize found : readItem fuel _ = out at read
      obtain ⟨items, _⟩ := out
      cases read
      simp [readItem, again, skipBlanks_append_of_cons next, below.item extra t found]
    · cases read

theorem readItems_succ (below : Extends fuel) {items : Items} (extra : Nat) (t : List Char)
    (read : readItems (fuel + 1) s = (items, some rest)) :
    readItems (extra + fuel + 1) (s ++ t) = (items, some (rest ++ t)) := by
  rw [readItems] at read
  split at read
  · rename_i next
    cases read
    simp [readItems, skipBlanks_append_of_cons next]
  · rename_i notEnd
    cases next : skipBlanks s with
    | nil =>
      rw [next] at read
      cases (readItem_nil fuel).symm.trans (congrArg Prod.snd read)
    | cons c later =>
      rw [next] at read
      have notEnd : c ≠ ']' := by
        rintro rfl
        exact notEnd _ next
      rw [readItems_of_ne (skipBlanks_append_of_cons next t) notEnd]
      exact below.item extra t read

theorem readMember_succ (below : Extends fuel) {members : Members} (extra : Nat) (t : List Char)
    (read : readMember (fuel + 1) s = (members, some rest)) :
    readMember (extra + fuel + 1) (s ++ t) = (members, some (rest ++ t)) := by
  rw [readMember] at read
  split at read
  · rename_i startsKey
    split at read
    · cases read
    · rename_i keyRead
      split at read
      · rename_i startsColon
        split at read
        · cases read
        · rename_i value later valueRead
          have key := string?_extends keyRead t
          split at read
          · rename_i next
            cases read
            have again := below.tree extra valueRead fun _ _ => stops_of_next next (by decide) t
            simp [readMember, skipBlanks_append_of_cons startsKey, key, skipBlanks_append_of_cons startsColon, again,
              skipBlanks_append_of_cons next]
          · rename_i next
            have again := below.tree extra valueRead fun _ _ => stops_of_next next (by decide) t
            generalize found : readMember fuel _ = out at read
            obtain ⟨members, _⟩ := out
            cases read
            simp [readMember, skipBlanks_append_of_cons startsKey, key, skipBlanks_append_of_cons startsColon, again,
              skipBlanks_append_of_cons next, below.member extra t found]
          · cases read
      · cases read
  · cases read

theorem readMembers_succ (below : Extends fuel) {members : Members} (extra : Nat) (t : List Char)
    (read : readMembers (fuel + 1) s = (members, some rest)) :
    readMembers (extra + fuel + 1) (s ++ t) = (members, some (rest ++ t)) := by
  rw [readMembers] at read
  split at read
  · rename_i next
    cases read
    simp [readMembers, skipBlanks_append_of_cons next]
  · rename_i notEnd
    cases next : skipBlanks s with
    | nil =>
      rw [next] at read
      cases (readMember_nil fuel).symm.trans (congrArg Prod.snd read)
    | cons c later =>
      rw [next] at read
      have notEnd : c ≠ '\x7d' := by
        rintro rfl
        exact notEnd _ next
      rw [readMembers_of_ne (skipBlanks_append_of_cons next t) notEnd]
      exact below.member extra t read

theorem readTree_succ (below : Extends fuel) {tree : Tree} (extra : Nat)
    (read : readTree (fuel + 1) s = (tree, some rest)) (stops : ∀ n, tree = .number n → Stops (rest ++ t)) :
    readTree (extra + fuel + 1) (s ++ t) = (tree, some (rest ++ t)) := by
  cases next : skipBlanks s with
  | nil =>
    rw [readTree, next] at read
    cases read
  | cons c later =>
    rw [readTree, next] at read
    -- The longer text starts with the same character, so its reader takes the same branch.
    split at read
    case h_8 =>
      rw [readTree, skipBlanks_append_of_cons next]
      split
      case h_8 => exact readNumber_extends read stops
      all_goals
        rename_i same
        cases same
        simp at *
    all_goals
      rename_i same
      cases same
      rw [readTree, skipBlanks_append_of_cons next]
    · exact readWord_extends read t
    · exact readWord_extends read t
    · exact readWord_extends read t
    · split at read
      · rename_i found
        cases read
        simp [string?_extends found]
      · cases read
    · generalize found : readItems fuel _ = out at read
      obtain ⟨items, _⟩ := out
      cases read
      simp [below.items extra t found]
    · generalize found : readMembers fuel _ = out at read
      obtain ⟨members, _⟩ := out
      cases read
      simp [below.members extra t found]
    · exact readNumber_extends read stops

end Extends

theorem extends_all (fuel : Nat) : Extends fuel := by
  -- The readers call one another, so what is carried through the fuel is about all five of them.
  induction fuel with
  | zero => exact ⟨nofun, nofun, nofun, nofun, nofun⟩
  | succ fuel ih => exact ⟨ih.readTree_succ, ih.readItems_succ, ih.readItem_succ, ih.readMembers_succ, ih.readMember_succ⟩

/-- What was read of a value is read again where the text goes on, unless it is a number that goes on as well. -/
theorem readTree_append {fuel more : Nat} {tree : Tree} (read : readTree fuel s = (tree, some rest))
    (stops : ∀ n, tree = .number n → Stops (rest ++ t)) (enough : fuel ≤ more) :
    readTree more (s ++ t) = (tree, some (rest ++ t)) := by
  obtain ⟨extra, rfl⟩ := Nat.exists_eq_add_of_le' enough
  exact (extends_all fuel).tree extra read stops

end Adjudication.Json
