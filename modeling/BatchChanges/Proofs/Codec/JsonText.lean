import BatchChanges.Json.Printer
import BatchChanges.Json.Reader
import BatchChanges.Proofs.Codec.Decimal

/-! # JSON texts are read back

The reader takes the text of a value on one line for the value, whatever comes after it. It does so
for all values that no rule of the grammar is in the way of: integers are in the range of those of
64 bits, the members of an object have different names, and values are not nested too deep.
-/

namespace BatchChanges.Json

open Text

/-- A character that was read, and those read before the end of the string. -/
def prepend (c : Char) (read : List Char × List Char) : List Char × List Char :=
  (c :: read.1, read.2)

private theorem stringRest?_letter {letter c : Char} (stands : escape? letter = some c)
    (other : letter ≠ 'u') (rest : List Char) :
    stringRest? ('\\' :: letter :: rest) = (stringRest? rest).map (prepend c) := by
  rw [stringRest?.eq_4 letter rest fun _ _ _ _ _ same _ => other same, stands]
  cases stringRest? rest <;> rfl

private theorem hexUnit?_hexDigit {code : Nat} (control : code < 0x20) :
    hexUnit? '0' '0' (hexDigit (code / 16)) (hexDigit (code % 16)) = some code := by
  have all : ∀ code, code < 0x20 →
      hexUnit? '0' '0' (hexDigit (code / 16)) (hexDigit (code % 16)) = some code := by decide
  exact all code control

private theorem stringRest?_control {c : Char} (control : c.toNat < 0x20) (rest : List Char) :
    stringRest? ('\\' :: 'u' :: '0' :: '0' :: hexDigit (c.toNat / 16) :: hexDigit (c.toNat % 16) ::
      rest) = (stringRest? rest).map (prepend c) := by
  rw [stringRest?.eq_3, hexUnit?_hexDigit control, Option.bind_eq_bind, Option.bind_some,
    if_neg (by omega), Char.ofNat_toNat, guard, if_pos (by omega)]
  cases stringRest? rest <;> rfl

private theorem stringRest?_plain {c : Char} (quote : c ≠ '"') (backslash : c ≠ '\\')
    (printable : 0x20 ≤ c.toNat) (rest : List Char) :
    stringRest? (c :: rest) = (stringRest? rest).map (prepend c) := by
  rw [stringRest?.eq_5 c rest quote (fun _ _ _ _ _ same _ => backslash same)
    (fun _ _ same _ => backslash same), guard, if_pos ⟨backslash, printable⟩]
  cases stringRest? rest <;> rfl

private theorem stringRest?_escaped (c : Char) (rest : List Char) :
    stringRest? (escaped c ++ rest) = (stringRest? rest).map (prepend c) := by
  unfold escaped
  split
  · exact stringRest?_letter rfl (by decide) rest
  · exact stringRest?_letter rfl (by decide) rest
  · exact stringRest?_letter rfl (by decide) rest
  · exact stringRest?_letter rfl (by decide) rest
  · exact stringRest?_letter rfl (by decide) rest
  · exact stringRest?_letter rfl (by decide) rest
  · exact stringRest?_letter rfl (by decide) rest
  · next quote backslash _ _ _ _ _ =>
    split
    · next control => exact stringRest?_control control rest
    · next printable => exact stringRest?_plain quote backslash (by omega) rest

private theorem stringRest?_flatMap (chars rest : List Char) :
    stringRest? (chars.flatMap escaped ++ '"' :: rest) = some (chars, rest) := by
  induction chars with
  | nil => rfl
  | cons c chars ih =>
    rw [List.flatMap_cons, List.append_assoc, stringRest?_escaped, ih]
    rfl

/-- A text does not go on with the value before it. -/
def Closes (rest : List Char) : Prop := ∀ c ∈ rest.head?, c = ',' ∨ c = ']' ∨ c = '}'

private theorem closes_nil : Closes [] := fun _ member => by cases member

private theorem closes_cons {c : Char} (closing : c = ',' ∨ c = ']' ∨ c = '}') (rest : List Char) :
    Closes (c :: rest) := by
  rintro _ ⟨⟩
  exact closing

variable {rest : List Char}

private theorem Closes.stops (closes : Closes rest) : Decimal.Stops rest := by
  intro c member
  rcases closes c member with rfl | rfl | rfl <;> rfl

private theorem Closes.fraction? (closes : Closes rest) : fraction? rest = some ([], rest) := by
  rw [Json.fraction?.eq_def]
  split
  · next more =>
    rcases closes '.' rfl with same | same | same <;> cases same
  · rfl

private theorem Closes.exponent? (closes : Closes rest) : exponent? rest = some ([], rest) := by
  cases rest with
  | nil => rfl
  | cons c rest =>
    refine if_neg ?_
    rcases closes c rfl with rfl | rfl | rfl <;> decide

private theorem integerDigits?_digits (number : Nat) (closes : Closes rest) :
    integerDigits? (Decimal.digits number ++ rest) = some (Decimal.digits number, rest) := by
  have digits : ∀ c ∈ Decimal.digits number, c.isDigit = true :=
    fun _ => Decimal.isDigit_of_mem_digits
  have taken := Decimal.span_append digits closes.stops
  obtain ⟨c, more, same, digit, zero⟩ := Decimal.exists_digits_eq_cons number
  rw [integerDigits?.eq_def]
  split
  · next first =>
    rw [same, List.cons_append] at first
    cases first
    -- A numeral that starts with a zero is that of zero.
    obtain rfl := zero rfl
    rw [show Decimal.digits 0 = ['0'] by rw [Decimal.digits]; rfl] at same ⊢
    cases same
    rfl
  · rw [taken, same]
    rfl

namespace Magnitude

private theorem takeWhole_of_le {chars : List Char} {magnitude : Magnitude}
    (room : magnitude.significand * 10 ^ chars.length + Decimal.value chars ≤ significandLimit) :
    takeWhole false magnitude chars =
      { magnitude with
        significand := magnitude.significand * 10 ^ chars.length + Decimal.value chars } := by
  induction chars generalizing magnitude with
  | nil => simp [takeWhole, Decimal.value]
  | cons c chars ih =>
    have split : Decimal.value (c :: chars) =
        Decimal.digitValue c * 10 ^ chars.length + Decimal.value chars := by
      have appended := Decimal.value_append [c] chars
      simpa [Decimal.value] using appended
    have same : (10 * magnitude.significand + Decimal.digitValue c) * 10 ^ chars.length +
        Decimal.value chars =
          magnitude.significand * 10 ^ (c :: chars).length + Decimal.value (c :: chars) := by
      rw [split, List.length_cons]
      ring
    have positive : 0 < 10 ^ chars.length := Nat.pow_pos (by decide)
    have fits : 10 * magnitude.significand + Decimal.digitValue c ≤ significandLimit := by
      refine Nat.le_trans ?_ (same ▸ room)
      exact Nat.le_add_right_of_le (Nat.le_mul_of_pos_right _ positive)
    rw [takeWhole, if_neg (by simp [fits]), ih (by rw [same]; exact room), same]

private theorem roundedTo53_le (number : Nat) : roundedTo53 number ≤ 2 * number + 1 := by
  have power : 2 ^ (number.log2 + 1 - 53) ≤ number + 1 := by
    rcases Nat.eq_zero_or_pos number with rfl | positive
    · decide
    · refine Nat.le_succ_of_le (Nat.le_trans ?_ (Nat.log2_self_le positive.ne'))
      exact Nat.pow_le_pow_right (by decide) (by omega)
  have kept := Nat.div_mul_le_self number (2 ^ (number.log2 + 1 - 53))
  simp only [roundedTo53, Nat.shiftLeft_eq, Nat.shiftRight_eq_div_pow]
  split
  · rw [Nat.succ_mul]
    omega
  · omega

private theorem fits_ofDigits {number : Nat} (small : number ≤ significandLimit) :
    (ofDigits (Decimal.digits number) [] 0).fits = true := by
  have taken : takeWhole false {} (Decimal.digits number) = { significand := number } := by
    rw [takeWhole_of_le (by simpa using small)]
    simp
  have significand := roundedTo53_le number
  have limit : 2 * significandLimit + 1 < overflowBound := by decide +kernel
  have one : roundedTo53 (Nat.pow 10 (Int.toNat 0)) = 1 := by decide +kernel
  rw [ofDigits, taken]
  simp only [takeFraction, fits, Int.add_zero]
  split
  · rfl
  · rw [if_neg (by decide), one, Nat.mul_one, decide_eq_true_iff]
    omega

end Magnitude

private theorem number?_ofInt {value : Int} (small : value.natAbs ≤ Magnitude.significandLimit)
    (closes : Closes rest) :
    number? (Decimal.ofInt value ++ rest) = some (integer value, rest) := by
  unfold number?
  cases value with
  | ofNat number =>
    split
    next negative unsigned signed =>
    split at signed
    · next sign =>
      obtain ⟨c, more, same, digit, -⟩ := Decimal.exists_digits_eq_cons number
      rw [Decimal.ofInt, same] at sign
      cases sign
      cases digit
    · cases signed
      refine bind_of_eq_some (integerDigits?_digits number closes) ?_
      refine bind_of_eq_some closes.fraction? ?_
      refine bind_of_eq_some closes.exponent? ?_
      refine bind_of_eq_some (if_pos (Magnitude.fits_ofDigits small)) ?_
      simp
  | negSucc number =>
    rw [Decimal.ofInt, List.cons_append]
    refine bind_of_eq_some (integerDigits?_digits (number + 1) closes) ?_
    refine bind_of_eq_some closes.fraction? ?_
    refine bind_of_eq_some closes.exponent? ?_
    refine bind_of_eq_some (if_pos (Magnitude.fits_ofDigits small)) ?_
    simp [Int.negSucc_eq]

/-- A value that can be read: integers have at most 64 bits, the members of an object have different
names, and values are nested at most `depth` deep. -/
inductive IsPlain : Nat → Json → Prop
  | null {depth : Nat} : IsPlain depth null
  | bool {depth : Nat} (value : Bool) : IsPlain depth (bool value)
  | integer {depth : Nat} {value : Int} (small : value.natAbs ≤ Magnitude.significandLimit) :
      IsPlain depth (integer value)
  | text {depth : Nat} (value : String) : IsPlain depth (text value)
  | array {depth : Nat} {items : List Json} (plain : ∀ item ∈ items, IsPlain depth item) :
      IsPlain (depth + 1) (array items)
  | object {depth : Nat} {members : List (String × Json)} (distinct : (members.map (·.1)).Nodup)
      (plain : ∀ member ∈ members, IsPlain depth member.2) : IsPlain (depth + 1) (object members)

/-- A value is read with enough fuel from its text, whatever comes after it. -/
def IsRead (depth : Nat) (value : Json) : Prop :=
  ∀ fuel rest, Closes rest → value.compact.toList.length ≤ fuel →
    value? (fuel + 1) depth (value.compact.toList ++ rest) = some (value, rest)

private theorem skipSpace_cons {c : Char} (inked : isSpace c = false) (rest : List Char) :
    skipSpace (c :: rest) = c :: rest := by
  rw [skipSpace, List.dropWhile_cons_of_neg (by simp [inked])]

variable {depth : Nat}

private theorem isRead_null : IsRead depth null := fun _ _ _ _ => rfl

private theorem isRead_bool (value : Bool) : IsRead depth (bool value) := by
  intro fuel rest closes enough
  cases value <;> rfl

/-- The first character of a numeral. -/
def IsNumeral (c : Char) : Prop := c = '-' ∨ c.isDigit = true

private theorem IsNumeral.ne {c mark : Char} (numeral : IsNumeral c) (sign : mark ≠ '-')
    (other : mark.isDigit = false) : c ≠ mark := by
  rintro rfl
  rcases numeral with minus | digit
  · exact sign minus
  · rw [digit] at other
    cases other

private theorem IsNumeral.inked {c : Char} (numeral : IsNumeral c) : isSpace c = false := by
  simp only [isSpace, Bool.or_eq_false_iff, beq_eq_false_iff_ne]
  exact ⟨⟨⟨numeral.ne (by decide) rfl, numeral.ne (by decide) rfl⟩, numeral.ne (by decide) rfl⟩,
    numeral.ne (by decide) rfl⟩

private theorem value?_numeral {c : Char} (numeral : IsNumeral c) (fuel depth : Nat)
    (rest : List Char) : value? (fuel + 1) depth (c :: rest) = number? (c :: rest) := by
  rw [value?, skipSpace_cons numeral.inked]
  split
  · next none => cases none
  · next same =>
    cases same
    exact absurd rfl (numeral.ne (by decide) rfl)
  · next same =>
    cases same
    exact absurd rfl (numeral.ne (by decide) rfl)
  · next same =>
    cases same
    exact absurd rfl (numeral.ne (by decide) rfl)
  · next same =>
    cases same
    rw [if_neg (numeral.ne (by decide) rfl), if_neg (numeral.ne (by decide) rfl),
      if_neg (numeral.ne (by decide) rfl)]

private theorem exists_ofInt_eq_cons (value : Int) :
    ∃ c more, Decimal.ofInt value = c :: more ∧ IsNumeral c := by
  cases value with
  | ofNat number =>
    obtain ⟨c, more, same, digit, -⟩ := Decimal.exists_digits_eq_cons number
    exact ⟨c, more, same, .inr digit⟩
  | negSucc number => exact ⟨_, _, rfl, .inl rfl⟩

private theorem isRead_integer {value : Int} (small : value.natAbs ≤ Magnitude.significandLimit) :
    IsRead depth (integer value) := by
  intro fuel rest closes enough
  have read := number?_ofInt small closes
  obtain ⟨c, more, same, numeral⟩ := exists_ofInt_eq_cons value
  rw [compact, integerText, String.toList_ofList]
  rw [same, List.cons_append] at read ⊢
  rw [value?_numeral numeral, read]

private theorem quoted_append (value : String) (rest : List Char) :
    (quoted value).toList ++ rest = '"' :: (value.toList.flatMap escaped ++ '"' :: rest) := by
  simp [quoted]

private theorem isRead_text (value : String) : IsRead depth (text value) := by
  intro fuel rest closes enough
  rw [compact, quoted_append]
  simp only [value?, skipSpace_cons (c := '"') (by decide), stringRest?_flatMap, Option.map_some,
    String.ofList_toList]

/-- The text of a value does not start with a blank or a closing bracket. -/
theorem exists_compact_eq_cons {value : Json} (plain : IsPlain depth value) :
    ∃ c more, value.compact.toList = c :: more ∧ isSpace c = false ∧ c ≠ ']' := by
  cases plain with
  | null => exact ⟨_, _, rfl, by decide, by decide⟩
  | bool value => cases value <;> exact ⟨_, _, rfl, by decide, by decide⟩
  | @integer _ value small =>
    obtain ⟨c, more, same, numeral⟩ := exists_ofInt_eq_cons value
    refine ⟨c, more, ?_, numeral.inked, numeral.ne (by decide) rfl⟩
    rw [compact, integerText, String.toList_ofList, same]
  | text value =>
    refine ⟨'"', value.toList.flatMap escaped ++ ['"'], ?_, by decide, by decide⟩
    rw [compact, quoted, String.toList_ofList, List.cons_append]
  | @array _ items plain =>
    refine ⟨'[', (String.intercalate "," (compactItems items) ++ "]").toList, ?_, by decide,
      by decide⟩
    rw [compact, String.append_assoc, String.toList_append]
    rfl
  | @object _ members distinct plain =>
    refine ⟨'\x7b', (String.intercalate "," (compactMembers members) ++ "\x7d").toList, ?_,
      by decide, by decide⟩
    rw [compact, String.append_assoc, String.toList_append]
    rfl

private theorem items?_compactItems {items : List Json} (nonempty : items ≠ [])
    (read : ∀ item ∈ items, IsRead depth item) (fuel : Nat) (rest : List Char)
    (enough : (String.intercalate "," (compactItems items)).toList.length ≤ fuel) :
    items? (fuel + 2) depth ((String.intercalate "," (compactItems items)).toList ++ ']' :: rest) =
      some (items, rest) := by
  induction items generalizing fuel with
  | nil => exact absurd rfl nonempty
  | cons item items ih =>
    obtain ⟨here, later⟩ := List.forall_mem_cons.mp read
    cases items with
    | nil =>
      simp only [compactItems, String.intercalate_singleton] at enough ⊢
      rw [items?, here fuel _ (closes_cons (by decide) _) enough]
      simp only [skipSpace_cons (c := ']') (by decide)]
    | cons next items =>
      have text : (String.intercalate "," (compactItems (item :: next :: items))).toList =
          item.compact.toList ++ ',' ::
            (String.intercalate "," (compactItems (next :: items))).toList := by
        simp [compactItems, String.intercalate_cons_cons]
      rw [text, List.length_append, List.length_cons] at enough
      obtain ⟨fuel, rfl⟩ : ∃ less, fuel = less + 1 := ⟨fuel - 1, by omega⟩
      rw [text, List.append_assoc, List.cons_append, items?,
        here (fuel + 1) _ (closes_cons (by decide) _) (by omega)]
      simp only [skipSpace_cons (c := ',') (by decide)]
      rw [ih (List.cons_ne_nil _ _) later fuel (by omega)]
      rfl

private theorem setMember_of_not_mem {name : String} {value : Json} {found : List (String × Json)}
    (absent : name ∉ found.map (·.1)) : setMember name value found = found ++ [(name, value)] := by
  induction found with
  | nil => rfl
  | cons entry rest ih =>
    rw [List.map_cons, List.mem_cons, not_or] at absent
    rw [setMember, if_neg (Ne.symm absent.1), ih absent.2, List.cons_append]

private theorem member_append (name : String) (value : Json) (rest : List Char) :
    (quoted name ++ ":" ++ value.compact).toList ++ rest =
      '"' :: (name.toList.flatMap escaped ++ '"' :: ':' :: (value.compact.toList ++ rest)) := by
  simp [quoted]

/-- Members are read up to the closing brace, and come after those that were read before. -/
theorem members?_compactMembers {members found : List (String × Json)} (nonempty : members ≠ [])
    (read : ∀ member ∈ members, IsRead depth member.2)
    (distinct : ((found ++ members).map (·.1)).Nodup) (fuel : Nat) (rest : List Char)
    (enough : (String.intercalate "," (compactMembers members)).toList.length ≤ fuel) :
    members? (fuel + 2) depth found
        ((String.intercalate "," (compactMembers members)).toList ++ '}' :: rest) =
      some (found ++ members, rest) := by
  induction members generalizing found fuel with
  | nil => exact absurd rfl nonempty
  | cons member members ih =>
    obtain ⟨name, value⟩ := member
    obtain ⟨here, later⟩ := List.forall_mem_cons.mp read
    change IsRead depth value at here
    have set : setMember (String.ofList name.toList) value found = found ++ [(name, value)] := by
      rw [String.ofList_toList]
      refine setMember_of_not_mem fun member => ?_
      rw [List.map_append, List.nodup_append] at distinct
      exact distinct.2.2 name member name List.mem_cons_self rfl
    have shorter : value.compact.toList.length ≤
        (quoted name ++ ":" ++ value.compact).toList.length := by
      rw [String.toList_append, List.length_append]
      exact Nat.le_add_left _ _
    cases members with
    | nil =>
      simp only [compactMembers, String.intercalate_singleton] at enough ⊢
      rw [member_append, members?]
      simp only [skipSpace_cons (c := '"') (by decide), stringRest?_flatMap,
        skipSpace_cons (c := ':') (by decide),
        here fuel _ (closes_cons (c := '}') (by decide) rest) (by omega),
        skipSpace_cons (c := '}') (by decide), set]
    | cons next members =>
      have text :
          (String.intercalate "," (compactMembers ((name, value) :: next :: members))).toList =
            (quoted name ++ ":" ++ value.compact).toList ++ ',' ::
            (String.intercalate "," (compactMembers (next :: members))).toList := by
        simp [compactMembers, String.intercalate_cons_cons]
      rw [text, List.length_append, List.length_cons] at enough
      obtain ⟨fuel, rfl⟩ : ∃ less, fuel = less + 1 := ⟨fuel - 1, by omega⟩
      rw [text, List.append_assoc, List.cons_append, member_append, members?]
      simp only [skipSpace_cons (c := '"') (by decide), stringRest?_flatMap,
        skipSpace_cons (c := ':') (by decide),
        here (fuel + 1) _ (closes_cons (c := ',') (by decide) _) (by omega),
        skipSpace_cons (c := ',') (by decide), set]
      rw [ih (List.cons_ne_nil _ _) later (by rwa [List.append_assoc]) fuel (by omega),
        List.append_assoc]
      rfl

private theorem array_append (items : List Json) (rest : List Char) :
    (array items).compact.toList ++ rest =
      '[' :: ((String.intercalate "," (compactItems items)).toList ++ ']' :: rest) := by
  simp [compact]

private theorem object_append (members : List (String × Json)) (rest : List Char) :
    (object members).compact.toList ++ rest =
      '\x7b' :: ((String.intercalate "," (compactMembers members)).toList ++ '\x7d' :: rest) := by
  simp [compact]

private theorem isRead_array {items : List Json} (plain : ∀ item ∈ items, IsPlain depth item)
    (read : ∀ item ∈ items, IsRead depth item) : IsRead (depth + 1) (array items) := by
  intro fuel rest closes enough
  cases items with
  | nil => rfl
  | cons item items =>
    have length := congrArg List.length (array_append (item :: items) [])
    simp only [List.append_nil, List.length_cons, List.length_append, List.length_nil] at length
    obtain ⟨fuel, rfl⟩ : ∃ less, fuel = less + 2 := ⟨fuel - 2, by omega⟩
    have found := items?_compactItems (List.cons_ne_nil item items) read fuel rest (by omega)
    -- The text of the first item is no closing bracket.
    obtain ⟨c, more, first, inked, other⟩ := exists_compact_eq_cons (plain item List.mem_cons_self)
    obtain ⟨tail, text⟩ : ∃ tail, (String.intercalate "," (compactItems (item :: items))).toList =
        c :: tail := by
      cases items with
      | nil => exact ⟨more, by simp [compactItems, first]⟩
      | cons next items =>
        exact ⟨_, by simp [compactItems, String.intercalate_cons_cons, first]; rfl⟩
    rw [array_append]
    rw [text, List.cons_append] at found ⊢
    simp only [value?, skipSpace_cons (c := '[') (by decide), skipSpace_cons inked]
    split
    · next same =>
      cases same
      exact absurd rfl other
    · rw [found]
      rfl

private theorem isRead_object {members : List (String × Json)}
    (distinct : (members.map (·.1)).Nodup) (read : ∀ member ∈ members, IsRead depth member.2) :
    IsRead (depth + 1) (object members) := by
  intro fuel rest closes enough
  cases members with
  | nil => rfl
  | cons member members =>
    have length := congrArg List.length (object_append (member :: members) [])
    simp only [List.append_nil, List.length_cons, List.length_append, List.length_nil] at length
    obtain ⟨fuel, rfl⟩ : ∃ less, fuel = less + 2 := ⟨fuel - 2, by omega⟩
    rw [← List.nil_append (member :: members)] at distinct
    have found :=
      members?_compactMembers (List.cons_ne_nil member members) read distinct fuel rest (by omega)
    obtain ⟨tail, text⟩ : ∃ tail,
        (String.intercalate "," (compactMembers (member :: members))).toList = '"' :: tail := by
      cases members with
      | nil => exact ⟨_, by simp [compactMembers, quoted]; rfl⟩
      | cons next members =>
        exact ⟨_, by simp [compactMembers, String.intercalate_cons_cons, quoted]; rfl⟩
    rw [object_append]
    rw [text, List.cons_append] at found ⊢
    simp only [value?, skipSpace_cons (c := '\x7b') (by decide),
      skipSpace_cons (c := '"') (by decide)]
    exact congrArg (Option.map fun read => (object read.1, read.2)) found

private theorem IsPlain.isRead {value : Json} (plain : IsPlain depth value) :
    IsRead depth value := by
  induction plain with
  | null => exact isRead_null
  | bool value => exact isRead_bool value
  | integer small => exact isRead_integer small
  | text value => exact isRead_text value
  | array plain read => exact isRead_array plain read
  | object distinct plain read => exact isRead_object distinct read

/-- The text of a value denotes the value. -/
theorem parse?_compact {value : Json} (plain : IsPlain 127 value) :
    parse? value.compact = some value := by
  have read := plain.isRead (2 * value.compact.toList.length + 1) [] closes_nil (by omega)
  rw [List.append_nil] at read
  rw [parse?, read]
  rfl

end BatchChanges.Json
