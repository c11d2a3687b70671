import ViewDoc.Json.Reader
import ViewDoc.Json.Writer
import ViewDoc.Proofs.Value.Distinct
/-!
What is read from JSON text. The main statements are that every value that is read has distinct
keys, as a mapping has, and that the bound on the steps of reading makes no difference.

Strings are read back: a character is written as it is or as an escape, of one code unit or of a
pair of them, and the reader takes the code units up to the quote and joins the pairs. The main
statement is that every text is read back from what is written for it, in every layout.
-/

set_option autoImplicit false

namespace ViewDoc

namespace Entries

theorem membersHaveDistinctKeys_set {es : Entries} {key : String} {v : Value}
    (distinct : Value.membersHaveDistinctKeys es = true) (own : v.hasDistinctKeys = true) :
    Value.membersHaveDistinctKeys (set es key v) = true := by
  induction es with
  | nil => exact (Value.membersHaveDistinctKeys_cons key v []).mpr ⟨own, rfl⟩
  | cons head rest ih =>
    obtain ⟨k, u⟩ := head
    obtain ⟨first, others⟩ := (Value.membersHaveDistinctKeys_cons k u rest).mp distinct
    rw [set]
    split
    · exact (Value.membersHaveDistinctKeys_cons key v rest).mpr ⟨own, others⟩
    · exact (Value.membersHaveDistinctKeys_cons k u _).mpr ⟨first, ih others⟩

theorem membersHaveDistinctKeys_merge {es updates : Entries}
    (distinct : Value.membersHaveDistinctKeys es = true)
    (more : Value.membersHaveDistinctKeys updates = true) :
    Value.membersHaveDistinctKeys (merge es updates) = true := by
  induction updates generalizing es with
  | nil => exact distinct
  | cons head rest ih =>
    obtain ⟨first, others⟩ := (Value.membersHaveDistinctKeys_cons head.1 head.2 rest).mp more
    exact ih (membersHaveDistinctKeys_set distinct first) others

theorem hasDistinctKeys_ofList {es : Entries}
    (distinct : Value.membersHaveDistinctKeys es = true) :
    (Value.object (ofList es)).hasDistinctKeys = true := by
  refine (Value.hasDistinctKeys_object _).mpr ⟨?_, membersHaveDistinctKeys_merge rfl distinct⟩
  exact @nodup_keys_merge _ [] List.nodup_nil es

end Entries

namespace Json

section

variable {cs rest : List Char} {v : Value} {vs : List Value} {es : Entries} {bound : Nat}

theorem exists_of_bind_ok {α β : Type} {x : Except ReadError α} {f : α -> Except ReadError β}
    {b : β} (read : (x >>= f) = .ok b) : ∃ a, x = .ok a ∧ f a = .ok b := by
  cases x with
  | error e => cases read
  | ok a => exact ⟨a, rfl, read⟩

theorem exists_of_map_ok {α β : Type} {x : Except ReadError (α × List Char)} {f : α -> β} {b : β}
    (read : x.map (fun p => (f p.1, p.2)) = .ok (b, rest)) :
    ∃ a, x = .ok (a, rest) ∧ b = f a := by
  cases x with
  | error e => cases read
  | ok r =>
    cases read
    exact ⟨_, rfl, rfl⟩

theorem length_skip_le (cs : List Char) : (skip cs).length ≤ cs.length := by
  rw [skip]
  exact (List.dropWhile_suffix _).length_le

theorem length_lt_of_skip {c : Char} (found : skip cs = c :: rest) : rest.length < cs.length := by
  have within := length_skip_le cs
  rw [found] at within
  exact Nat.lt_of_succ_le within

theorem length_stringUnits_lt {seen units : List Nat}
    (read : stringUnits seen cs = .ok (units, rest)) : rest.length < cs.length := by
  fun_induction stringUnits seen cs with
  | case3 seen a b c d later n digits ih =>
    have shorter := ih read
    simp only [List.length_cons]
    omega
  | _ => grind

theorem length_readString_lt {s : String} (read : readString cs = .ok (s, rest)) :
    rest.length < cs.length := by
  rw [readString] at read
  obtain ⟨⟨units, later⟩, seen, read⟩ := exists_of_bind_ok read
  cases read
  exact length_stringUnits_lt seen

/-- A value is a simple one, or it has the items or members that follow its bracket. -/
theorem readValue_cases (read : readValue (bound + 1) cs = .ok (v, rest)) :
    v.hasDistinctKeys = true ∧ rest.length < cs.length ∨
      (∃ later vs, later.length < cs.length ∧ readItems bound later = .ok (vs, rest) ∧
        v = .list vs) ∨
      ∃ later es, later.length < cs.length ∧ readMembers bound later = .ok (es, rest) ∧
        v = .object (Entries.ofList es) := by
  have number {negative : Bool} {later : List Char} (within : later.length ≤ cs.length)
      (read : readNumber negative later = .ok (v, rest)) :
      v.hasDistinctKeys = true ∧ rest.length < cs.length := by
    obtain ⟨⟨i, rfl⟩ | ⟨x, rfl⟩, shorter⟩ := readNumber_cases read
    · exact ⟨rfl, Nat.lt_of_lt_of_le shorter within⟩
    · exact ⟨rfl, Nat.lt_of_lt_of_le shorter within⟩
  rw [readValue.eq_def] at read
  dsimp only at read
  split at read
  · rename_i later
    obtain ⟨s, text, rfl⟩ := exists_of_map_ok read
    exact .inl ⟨rfl, Nat.lt_succ_of_lt (length_readString_lt text)⟩
  · rename_i later
    split at read
    · rename_i closed
      cases read
      exact .inl ⟨rfl, Nat.lt_succ_of_lt (length_lt_of_skip closed)⟩
    · obtain ⟨vs, items, rfl⟩ := exists_of_map_ok read
      exact .inr (.inl ⟨_, vs, Nat.lt_succ_of_le (length_skip_le later), items, rfl⟩)
  · rename_i later
    split at read
    · rename_i closed
      cases read
      exact .inl ⟨rfl, Nat.lt_succ_of_lt (length_lt_of_skip closed)⟩
    · obtain ⟨es, members, rfl⟩ :=
        exists_of_map_ok (f := fun es => Value.object (Entries.ofList es)) read
      exact .inr (.inr ⟨_, es, Nat.lt_succ_of_le (length_skip_le later), members, rfl⟩)
  case h_10 => exact .inl (number (Nat.le_succ _) read)
  case h_11 => exact .inl (number (Nat.le_refl _) read)
  all_goals
    obtain ⟨rfl, whole⟩ := word_cases read
    refine .inl ⟨rfl, ?_⟩
    rw [whole, List.length_append]
    exact Nat.lt_add_of_pos_left (by decide)

/-- Items are a value, and the items after a comma if one follows. -/
theorem readItems_cases (read : readItems (bound + 1) cs = .ok (vs, rest)) :
    ∃ v between, readValue bound cs = .ok (v, between) ∧
      (vs = [v] ∧ rest.length < between.length ∨
        ∃ later others, later.length < between.length ∧
          readItems bound later = .ok (others, rest) ∧ vs = v :: others) := by
  rw [readItems] at read
  obtain ⟨⟨v, between⟩, value, read⟩ := exists_of_bind_ok read
  dsimp only at read
  refine ⟨v, between, value, ?_⟩
  split at read
  · rename_i closed
    cases read
    exact .inl ⟨rfl, length_lt_of_skip closed⟩
  · rename_i r comma
    obtain ⟨⟨others, last⟩, items, read⟩ := exists_of_bind_ok read
    cases read
    have within := Nat.lt_of_le_of_lt (length_skip_le r) (length_lt_of_skip comma)
    exact .inr ⟨skip r, others, within, items, rfl⟩
  · cases read

/-- Members are a key with its value, and the members after a comma if one follows. -/
theorem readMembers_cases (read : readMembers (bound + 1) cs = .ok (es, rest)) :
    ∃ key next v between, next.length < cs.length ∧ readValue bound next = .ok (v, between) ∧
      (es = [(key, v)] ∧ rest.length < between.length ∨
        ∃ later others, later.length < between.length ∧
          readMembers bound later = .ok (others, rest) ∧ es = (key, v) :: others) := by
  rw [readMembers.eq_def] at read
  dsimp only at read
  split at read
  · obtain ⟨⟨key, named⟩, text, read⟩ := exists_of_bind_ok read
    dsimp only at read
    split at read
    · rename_i r colon
      obtain ⟨⟨v, between⟩, value, read⟩ := exists_of_bind_ok read
      dsimp only at read
      have first : (skip r).length < named.length :=
        Nat.lt_of_le_of_lt (length_skip_le r) (length_lt_of_skip colon)
      have within := Nat.lt_trans first (Nat.lt_succ_of_lt (length_readString_lt text))
      refine ⟨key, skip r, v, between, within, value, ?_⟩
      split at read
      · rename_i closed
        cases read
        exact .inl ⟨rfl, length_lt_of_skip closed⟩
      · rename_i r comma
        obtain ⟨⟨others, last⟩, members, read⟩ := exists_of_bind_ok read
        cases read
        have within := Nat.lt_of_le_of_lt (length_skip_le r) (length_lt_of_skip comma)
        exact .inr ⟨skip r, others, within, members, rfl⟩
      · cases read
    · cases read
  · cases read

/-- What is read has distinct keys, and takes a character at least. -/
theorem distinct_and_shorter (bound : Nat) :
    (∀ cs v rest, readValue bound cs = .ok (v, rest) ->
      v.hasDistinctKeys = true ∧ rest.length < cs.length) ∧
    (∀ cs vs rest, readItems bound cs = .ok (vs, rest) ->
      Value.itemsHaveDistinctKeys vs = true ∧ rest.length < cs.length) ∧
    ∀ cs es rest, readMembers bound cs = .ok (es, rest) ->
      Value.membersHaveDistinctKeys es = true ∧ rest.length < cs.length := by
  induction bound with
  | zero =>
    refine ⟨fun cs v rest read => ?_, fun cs vs rest read => ?_, fun cs es rest read => ?_⟩
    · rw [readValue] at read
      cases read
    · rw [readItems] at read
      cases read
    · rw [readMembers] at read
      cases read
  | succ bound ih =>
    obtain ⟨values, items, members⟩ := ih
    refine ⟨fun cs v rest read => ?_, fun cs vs rest read => ?_, fun cs es rest read => ?_⟩
    · rcases readValue_cases read with simple | ⟨later, vs, within, inner, rfl⟩ |
        ⟨later, es, within, inner, rfl⟩
      · exact simple
      · obtain ⟨distinct, shorter⟩ := items _ _ _ inner
        exact ⟨distinct, Nat.lt_trans shorter within⟩
      · obtain ⟨distinct, shorter⟩ := members _ _ _ inner
        exact ⟨Entries.hasDistinctKeys_ofList distinct, Nat.lt_trans shorter within⟩
    · obtain ⟨v, between, first, more⟩ := readItems_cases read
      obtain ⟨distinct, shorter⟩ := values _ _ _ first
      rcases more with ⟨rfl, last⟩ | ⟨later, others, within, more, rfl⟩
      · exact ⟨(Value.itemsHaveDistinctKeys_cons v []).mpr ⟨distinct, rfl⟩,
          Nat.lt_trans last shorter⟩
      · obtain ⟨all, last⟩ := items _ _ _ more
        exact ⟨(Value.itemsHaveDistinctKeys_cons v others).mpr ⟨distinct, all⟩,
          Nat.lt_trans (Nat.lt_trans last within) shorter⟩
    · obtain ⟨key, next, v, between, front, first, more⟩ := readMembers_cases read
      obtain ⟨distinct, shorter⟩ := values _ _ _ first
      have shorter := Nat.lt_trans shorter front
      rcases more with ⟨rfl, last⟩ | ⟨later, others, within, more, rfl⟩
      · exact ⟨(Value.membersHaveDistinctKeys_cons key v []).mpr ⟨distinct, rfl⟩,
          Nat.lt_trans last shorter⟩
      · obtain ⟨all, last⟩ := members _ _ _ more
        exact ⟨(Value.membersHaveDistinctKeys_cons key v others).mpr ⟨distinct, all⟩,
          Nat.lt_trans (Nat.lt_trans last within) shorter⟩

section

variable {n m : Nat}

theorem readValue_congr
    (items : ∀ later, later.length < cs.length -> readItems n later = readItems m later)
    (members : ∀ later, later.length < cs.length -> readMembers n later = readMembers m later) :
    readValue (n + 1) cs = readValue (m + 1) cs := by
  have within := length_skip_le
  rw [readValue.eq_def, readValue.eq_def]
  grind

theorem readItems_congr (value : readValue n cs = readValue m cs)
    (items : ∀ later, later.length < cs.length -> readItems n later = readItems m later) :
    readItems (n + 1) cs = readItems (m + 1) cs := by
  have within := length_skip_le
  rw [readItems, readItems, ← value]
  cases read : readValue n cs with
  | error => rfl
  | ok r =>
    have shorter := ((distinct_and_shorter n).1 cs r.1 r.2 read).2
    simp only [bind, Except.bind]
    grind

theorem readMembers_congr
    (value : ∀ later, later.length < cs.length -> readValue n later = readValue m later)
    (members : ∀ later, later.length < cs.length -> readMembers n later = readMembers m later) :
    readMembers (n + 1) cs = readMembers (m + 1) cs := by
  have within := length_skip_le
  rw [readMembers.eq_def, readMembers.eq_def]
  dsimp only
  split
  · rename_i rest
    cases text : readString rest with
    | error => rfl
    | ok r =>
      have shorter := length_readString_lt text
      simp only [bind, Except.bind]
      split
      · rename_i next colon
        have front := Nat.lt_of_le_of_lt (length_skip_le next) (length_lt_of_skip colon)
        rw [← value _ (Nat.lt_trans front (Nat.lt_succ_of_lt shorter))]
        cases read : readValue n (skip next) with
        | error => rfl
        | ok r =>
          have shorter := ((distinct_and_shorter n).1 _ r.1 r.2 read).2
          dsimp only
          grind
      · rfl
  · rfl

end

/-- Beyond twice the number of characters a bound makes no difference. Items step to their first
value without taking a character, and every other step takes one. -/
theorem read_alike (n : Nat) :
    (∀ m (cs : List Char), 2 * cs.length < n -> 2 * cs.length < m ->
      readValue n cs = readValue m cs) ∧
    (∀ m (cs : List Char), 2 * cs.length + 1 < n -> 2 * cs.length + 1 < m ->
      readItems n cs = readItems m cs) ∧
    ∀ m (cs : List Char), 2 * cs.length + 1 < n -> 2 * cs.length + 1 < m ->
      readMembers n cs = readMembers m cs := by
  induction n with
  | zero => exact ⟨by omega, by omega, by omega⟩
  | succ n ih =>
    obtain ⟨values, items, members⟩ := ih
    refine ⟨fun m cs low high => ?_, fun m cs low high => ?_, fun m cs low high => ?_⟩
    all_goals obtain ⟨m, rfl⟩ := Nat.exists_eq_add_one_of_ne_zero (Nat.ne_zero_of_lt high)
    · exact readValue_congr (fun later within => items m later (by omega) (by omega))
        fun later within => members m later (by omega) (by omega)
    · exact readItems_congr (values m cs (by omega) (by omega))
        fun later within => items m later (by omega) (by omega)
    · exact readMembers_congr (fun later within => values m later (by omega) (by omega))
        fun later within => members m later (by omega) (by omega)

/-- A text is read with any bound that suffices. -/
theorem read_eq {s : String} {bound : Nat} (enough : 2 * s.toList.length < bound) :
    read s = (do
      let (v, rest) ← readValue bound (skip s.toList)
      if (skip rest).isEmpty then return v else throw .malformed) := by
  have within := length_skip_le s.toList
  rw [read, (read_alike _).1 bound (skip s.toList) (by omega) (by omega)]

/-- What a text holds has distinct keys. -/
theorem hasDistinctKeys_of_read {s : String} (done : read s = .ok v) :
    v.hasDistinctKeys = true := by
  rw [read] at done
  obtain ⟨⟨u, rest⟩, value, done⟩ := exists_of_bind_ok done
  dsimp only at done
  split at done
  · cases done
    exact ((distinct_and_shorter _).1 _ _ _ value).1
  · cases done

end

section

theorem hexValue?_digitChar {n : Nat} (small : n < 16) : hexValue? (Nat.digitChar n) = some n := by
  have all : ∀ n < 16, hexValue? (Nat.digitChar n) = some n := by decide
  exact all n small

/-- Four digits spell every code unit. -/
theorem hexUnit?_hexDigits {n : Nat} (small : n < 65536) :
    ∃ a b c d, Text.hexDigits 4 n = [a, b, c, d] ∧ hexUnit? a b c d = some n := by
  refine ⟨_, _, _, _, rfl, ?_⟩
  rw [hexUnit?, hexValue?_digitChar (Nat.mod_lt _ (by decide)),
    hexValue?_digitChar (Nat.mod_lt _ (by decide)), hexValue?_digitChar (Nat.mod_lt _ (by decide)),
    hexValue?_digitChar (Nat.mod_lt _ (by decide))]
  have whole : ((n / 16 / 16 / 16 % 16 * 16 + n / 16 / 16 % 16) * 16 + n / 16 % 16) * 16 + n % 16 =
      n := by
    omega
  exact congrArg some whole

/-- The code units by which a character is written: one, or a pair beyond the range of one. -/
def units (asciiOnly : Bool) (c : Char) : List Nat :=
  if asciiOnly && 0x10000 ≤ c.toNat then
    [0xd800 + (c.toNat - 0x10000) / 0x400, 0xdc00 + (c.toNat - 0x10000) % 0x400]
  else [c.toNat]

/-- No character is half of a pair. -/
theorem toNat_cases (c : Char) : c.toNat < 0xd800 ∨ (0xdfff < c.toNat ∧ c.toNat < 0x110000) :=
  c.valid

variable (seen : List Nat) (rest : List Char)

theorem stringUnits_quote : stringUnits seen ('"' :: rest) = .ok (seen.reverse, rest) := by
  rw [stringUnits]

theorem stringUnits_unitEscape {n : Nat} (small : n < 65536) :
    stringUnits seen (unitEscape n ++ rest) = stringUnits (n :: seen) rest := by
  obtain ⟨a, b, c, d, digits, value⟩ := hexUnit?_hexDigits small
  rw [unitEscape, digits]
  change stringUnits seen ('\\' :: 'u' :: a :: b :: c :: d :: rest) = _
  rw [stringUnits, value]

theorem stringUnits_simple {e : Char} {n : Nat} (known : simpleEscape? e = some n)
    (single : e ≠ 'u') : stringUnits seen ('\\' :: e :: rest) = stringUnits (n :: seen) rest := by
  rw [stringUnits, known]
  exact fun _ _ _ _ _ same => absurd same single

theorem stringUnits_plain {c : Char} (quote : c ≠ '"') (backslash : c ≠ '\\')
    (visible : ¬ c.toNat < 32) :
    stringUnits seen (c :: rest) = stringUnits (c.toNat :: seen) rest := by
  rw [stringUnits, if_neg visible]
  · exact quote
  · exact fun _ _ _ _ _ same => absurd same backslash
  · exact fun _ _ same => absurd same backslash

/-- The ways in which a character is written. -/
inductive Escaped (asciiOnly : Bool) (c : Char) : List Char -> Prop where
  | simple {e : Char} : c.toNat < 0x10000 -> simpleEscape? e = some c.toNat -> e ≠ 'u' ->
      Escaped asciiOnly c ['\\', e]
  | unit : c.toNat < 0x10000 -> Escaped asciiOnly c (unitEscape c.toNat)
  | pair : asciiOnly = true -> 0x10000 ≤ c.toNat ->
      Escaped asciiOnly c (unitEscape (0xd800 + (c.toNat - 0x10000) / 0x400) ++
        unitEscape (0xdc00 + (c.toNat - 0x10000) % 0x400))
  | plain : c ≠ '"' -> c ≠ '\\' -> ¬ c.toNat < 32 ->
      (asciiOnly = true -> c.toNat < 0x10000) -> Escaped asciiOnly c [c]

theorem escaped_escape (asciiOnly : Bool) (c : Char) :
    Escaped asciiOnly c (escape asciiOnly c) := by
  have simple {d e : Char} (small : d.toNat < 0x10000) (known : simpleEscape? e = some d.toNat)
      (other : e ≠ 'u') {later : List Char} (next : c ≠ d -> Escaped asciiOnly c later) :
      Escaped asciiOnly c (if c == d then ['\\', e] else later) := by
    by_cases own : c = d
    · rw [own, if_pos (beq_self_eq_true d)]
      exact .simple small known other
    · rw [if_neg (by simpa using own)]
      exact next own
  rw [escape]
  refine simple (by decide) rfl (by decide) fun quote => ?_
  refine simple (by decide) rfl (by decide) fun backslash => ?_
  refine simple (by decide) rfl (by decide) fun _ => ?_
  refine simple (by decide) rfl (by decide) fun _ => ?_
  refine simple (by decide) rfl (by decide) fun _ => ?_
  refine simple (by decide) rfl (by decide) fun _ => ?_
  refine simple (by decide) rfl (by decide) fun _ => ?_
  split
  · exact .unit (by omega)
  · rename_i visible
    split
    · rename_i beyond
      simp only [Bool.and_eq_true, decide_eq_true_eq] at beyond
      split
      · exact .unit ‹_›
      · exact .pair beyond.1 (by omega)
    · rename_i within
      simp only [Bool.and_eq_true, decide_eq_true_eq, not_and, Nat.not_lt] at within
      refine .plain quote backslash visible fun ascii => ?_
      have low := within ascii
      omega

/-- What is written for a character is read as its code units. -/
theorem stringUnits_escape (asciiOnly : Bool) (c : Char) :
    stringUnits seen (escape asciiOnly c ++ rest) =
      stringUnits ((units asciiOnly c).reverse ++ seen) rest := by
  have single (small : asciiOnly = true -> c.toNat < 0x10000) : units asciiOnly c = [c.toNat] := by
    rw [units, if_neg]
    simpa using small
  have written := escaped_escape asciiOnly c
  generalize escape asciiOnly c = text at written ⊢
  cases written with
  | simple small known other =>
    rw [single fun _ => small]
    exact stringUnits_simple seen rest known other
  | unit small =>
    rw [single fun _ => small]
    exact stringUnits_unitEscape seen rest small
  | pair ascii large =>
    have valid := toNat_cases c
    rw [units, if_pos (by simp [ascii, large]), List.append_assoc,
      stringUnits_unitEscape seen _ (by omega), stringUnits_unitEscape _ rest (by omega)]
    rfl
  | plain quote backslash visible small =>
    rw [single small]
    exact stringUnits_plain seen rest quote backslash visible

theorem stringUnits_flatMap_escape (asciiOnly : Bool) (cs : List Char) :
    stringUnits seen (cs.flatMap (escape asciiOnly) ++ '"' :: rest) =
      .ok (seen.reverse ++ cs.flatMap (units asciiOnly), rest) := by
  induction cs generalizing seen with
  | nil =>
    rw [List.flatMap_nil, List.nil_append, stringUnits_quote, List.flatMap_nil, List.append_nil]
  | cons c cs ih =>
    rw [List.flatMap_cons, List.append_assoc, stringUnits_escape, ih, List.flatMap_cons,
      List.reverse_append, List.reverse_reverse, List.append_assoc]

/-- The code units of characters are joined to these characters. -/
theorem joinPairs_units (asciiOnly : Bool) (c : Char) (us : List Nat) :
    joinPairs none (units asciiOnly c ++ us) = c :: joinPairs none us := by
  have valid := toNat_cases c
  rw [units]
  split
  · rename_i beyond
    simp only [Bool.and_eq_true, decide_eq_true_eq] at beyond
    have high : isHighHalf (0xd800 + (c.toNat - 0x10000) / 0x400) = true := by
      rw [isHighHalf, Bool.and_eq_true, decide_eq_true_eq, decide_eq_true_eq]
      omega
    have low : isLowHalf (0xdc00 + (c.toNat - 0x10000) % 0x400) = true := by
      rw [isLowHalf, Bool.and_eq_true, decide_eq_true_eq, decide_eq_true_eq]
      omega
    have whole : 0x10000 + (0xd800 + (c.toNat - 0x10000) / 0x400 - 0xd800) * 0x400 +
        (0xdc00 + (c.toNat - 0x10000) % 0x400 - 0xdc00) = c.toNat := by
      omega
    rw [List.cons_append, List.cons_append, List.nil_append, joinPairs, if_pos high, joinPairs,
      if_pos low, whole, Char.ofNat_toNat]
  · have high : isHighHalf c.toNat = false := by
      rw [isHighHalf, Bool.and_eq_false_iff, decide_eq_false_iff_not, decide_eq_false_iff_not]
      omega
    have low : isLowHalf c.toNat = false := by
      rw [isLowHalf, Bool.and_eq_false_iff, decide_eq_false_iff_not, decide_eq_false_iff_not]
      omega
    rw [List.cons_append, List.nil_append, joinPairs, if_neg (by simp [high]),
      if_neg (by simp [low]), Char.ofNat_toNat]

theorem joinPairs_flatMap_units (asciiOnly : Bool) (cs : List Char) :
    joinPairs none (cs.flatMap (units asciiOnly)) = cs := by
  induction cs with
  | nil => rfl
  | cons c cs ih => rw [List.flatMap_cons, joinPairs_units, ih]

theorem readString_writeText (asciiOnly : Bool) (s : String) :
    readString (s.toList.flatMap (escape asciiOnly) ++ '"' :: rest) = .ok (s, rest) := by
  rw [readString, stringUnits_flatMap_escape]
  change Except.ok (String.ofList (joinPairs none (s.toList.flatMap (units asciiOnly))), rest) = _
  rw [joinPairs_flatMap_units, String.ofList_toList]

/-- A text is read back from the JSON string that is written for it. -/
theorem read_write_str (layout : Layout) (s : String) :
    read (write layout (.str s)) = .ok (.str s) := by
  have text : (write layout (.str s)).toList =
      '"' :: (s.toList.flatMap (escape layout.asciiOnly) ++ ['"']) := by
    rw [write, writeAt, writeText, String.toList_ofList, List.cons_append]
  have value (fuel : Nat) : readValue (fuel + 1)
      ('"' :: (s.toList.flatMap (escape layout.asciiOnly) ++ ['"'])) = .ok (.str s, []) := by
    rw [readValue, readString_writeText]
    rfl
  rw [read, text]
  dsimp only
  have skipped : skip ('"' :: (s.toList.flatMap (escape layout.asciiOnly) ++ ['"'])) =
      '"' :: (s.toList.flatMap (escape layout.asciiOnly) ++ ['"']) :=
    List.dropWhile_cons_of_neg (by decide)
  rw [skipped, value]
  rfl

end

end Json

end ViewDoc
