import Mathlib.Data.List.TakeDrop
import Mathlib.Data.List.TakeWhile
import ThumbDrive.Json.Document

/-! # Values and their texts

The text of a value is read back as that value (`Json.parse?_render`), so that it determines the
value.  Between the two stands the document: the lexer finds in the text the tokens of the document
(`tokens?_chars`), and the reader makes the document of its tokens (`Document.ofTokens?_tokens`).

Both are stated of a text, or of tokens, with more to come.  For tokens this is an equation between
two states of the reader.  For a text it is not: a word or a numeral has no end of its own, and its
token is there only when a mark or the end of the text has followed.  So the lexer is compared by
what it makes of all the rest (`Lexer.run`), and the rest must end a word (`Stops`).

Numbers with a fraction or an exponent are kept as they were written, whatever that is; nothing is
said about them, and values without them are `Whole`. -/
namespace ThumbDrive

/-! ## Numerals -/

namespace Decimal

theorem digitValue?_digit (n : Nat) : digitValue? (digit n) = some (n % 10) := by
  have hall : ∀ d < 10, digitValue? (Char.ofNat (48 + d)) = some d := by decide
  exact hall (n % 10) (Nat.mod_lt n (by decide))

theorem digits_ne_nil (n : Nat) : digits n ≠ [] := by
  rw [digits]
  split <;> simp

/-- A numeral is made of ten characters. -/
theorem forall_mem_digits {P : Char → Prop} (hall : ∀ d < 10, P (digit d)) (n : Nat) :
    ∀ c ∈ digits n, P c := by
  intro c h
  induction n using digits.induct with
  | case1 n hn =>
    rw [digits, if_pos hn, List.mem_singleton] at h
    exact h ▸ hall n hn
  | case2 n hn ih =>
    rw [digits, if_neg hn, List.mem_append, List.mem_singleton] at h
    rcases h with h | rfl
    · exact ih h
    · exact hall _ (Nat.mod_lt n (by decide))

/-- Only zero is written with a zero in front. -/
theorem head?_digits {n : Nat} (h : 0 < n) : (digits n).head? ≠ some '0' := by
  induction n using digits.induct with
  | case1 n hn =>
    have hall : ∀ d < 10, 0 < d → digit d ≠ '0' := by decide
    rw [digits, if_pos hn]
    simpa using hall n hn h
  | case2 n hn ih =>
    obtain ⟨c, cs, hcs⟩ := List.exists_cons_of_ne_nil (digits_ne_nil (n / 10))
    have hrest := ih (by omega)
    rw [hcs] at hrest
    rw [digits, if_neg hn, hcs]
    exact hrest

theorem readFrom_append (n : Nat) (cs ds : List Char) :
    readFrom n (cs ++ ds) = (readFrom n cs).bind fun m => readFrom m ds := by
  induction cs generalizing n with
  | nil => rfl
  | cons c cs ih =>
    simp only [List.cons_append, readFrom, Option.bind_eq_bind, ih, Option.bind_assoc]

/-- **Digits are read as the number they were written for.** -/
theorem readFrom_digits (n : Nat) : readFrom 0 (digits n) = some n := by
  induction n using digits.induct with
  | case1 n hn =>
    rw [digits, if_pos hn]
    simp [readFrom, digitValue?_digit, Nat.mod_eq_of_lt hn]
  | case2 n hn ih =>
    rw [digits, if_neg hn, readFrom_append, ih]
    simp only [Option.bind_some, readFrom, digitValue?_digit, Option.bind_eq_bind]
    congr 1
    omega

theorem read?_digits (n : Nat) : read? (digits n) = some n := by
  rw [← readFrom_digits n]
  obtain ⟨c, cs, hcs⟩ := List.exists_cons_of_ne_nil (digits_ne_nil n)
  rw [hcs]
  rfl

end Decimal

theorem Hex.digitValue?_digit (n : Nat) : digitValue? (digit n) = some (n % 16) := by
  have hall : ∀ d < 16, digitValue? (digit d) = some d := by decide
  have hdigit : digit n = digit (n % 16) := by simp [digit]
  rw [hdigit]
  exact hall (n % 16) (Nat.mod_lt n (by decide))

namespace Json

theorem spanDigits_digits (n : Nat) : spanDigits (Decimal.digits n) = (Decimal.digits n, []) := by
  have hall : ∀ c ∈ Decimal.digits n, ('0' ≤ c && c ≤ '9') = true :=
    Decimal.forall_mem_digits (by decide) n
  unfold spanDigits
  rw [List.span_eq_takeWhile_dropWhile, List.takeWhile_eq_self_iff.mpr hall,
    List.dropWhile_eq_nil_iff.mpr hall]

namespace Number

theorem unsigned?_digits (n : Nat) : unsigned? (Decimal.digits n) = some (n, []) := by
  unfold unsigned?
  rw [spanDigits_digits]
  split
  · next heq => exact absurd (congrArg Prod.fst heq) (Decimal.digits_ne_nil n)
  · next c cs rest heq =>
    -- a zero with more digits behind it would be the numeral of zero
    have hdigits : Decimal.digits n = '0' :: c :: cs := congrArg Prod.fst heq
    rcases Nat.eq_zero_or_pos n with rfl | hpos
    · rw [Decimal.digits] at hdigits
      cases hdigits
    · exact absurd (congrArg List.head? hdigits) (Decimal.head?_digits hpos)
  · next ds rest _ _ heq =>
    cases heq
    rw [Decimal.read?_digits]
    rfl

/-- **The numeral of an integer is read as that integer.** -/
theorem ofChars?_int (n : Int) : ofChars? (chars (.int n)) = some (.int n) := by
  cases n with
  | ofNat n =>
    have hdigits : ∀ c ∈ Decimal.digits n, c ≠ '-' := Decimal.forall_mem_digits (by decide) n
    unfold ofChars?
    simp only [chars]
    split
    · next ds heq => exact absurd rfl (hdigits '-' (heq ▸ List.mem_cons_self))
    · rw [unsigned?_digits]
      rfl
  | negSucc n =>
    simp only [chars, ofChars?, unsigned?_digits]
    rfl

/-- No mark and no blank stands in a numeral. -/
theorem endsWord_of_mem_chars {n : Int} {c : Char} (h : c ∈ chars (.int n)) :
    Lexer.endsWord c = false := by
  have hdigits : ∀ m, ∀ c ∈ Decimal.digits m, Lexer.endsWord c = false :=
    Decimal.forall_mem_digits (by decide)
  cases n with
  | ofNat n => exact hdigits n c h
  | negSucc n =>
    rcases List.mem_cons.mp h with rfl | h
    · decide
    · exact hdigits (n + 1) c h

end Number

theorem wordToken?_numeral (n : Int) :
    wordToken? (Number.chars (.int n)).reverse = some (.num (.int n)) := by
  have hchars := Number.ofChars?_int n
  unfold wordToken?
  rw [List.reverse_reverse]
  split
  · next heq => rw [heq] at hchars; cases hchars
  · next heq => rw [heq] at hchars; cases hchars
  · next heq => rw [heq] at hchars; cases hchars
  · rw [hchars]
    rfl

/-! ## The lexer -/

namespace Lexer

/-- The tokens that a lexer has when all the rest of a text has been read. -/
def run (l : Lexer) (cs : List Char) : Option (List Token) := do (← cs.foldlM step l).finish

theorem run_cons (l : Lexer) (c : Char) (cs : List Char) :
    l.run (c :: cs) = (l.step c).bind fun l => l.run cs := by
  simp only [run, List.foldlM_cons, Option.bind_eq_bind, Option.bind_assoc]

theorem run_of_step {l l' : Lexer} {c : Char} (h : l.step c = some l') (cs : List Char) :
    l.run (c :: cs) = l'.run cs := by
  rw [run_cons, h]
  rfl

end Lexer

/-- What may follow a word or a numeral: the end of the text, a mark or a blank. -/
def Stops (rest : List Char) : Prop := ∀ c ∈ rest.head?, Lexer.endsWord c = true

namespace Lexer
variable {tokens : List Token} {rest : List Char}

/-- A character that does not end a word is a part of one. -/
theorem stepGap_of_not_endsWord {c : Char} (h : endsWord c = false) (tokens : List Token) :
    stepGap tokens c = { tokens, mode := .word [c] } := by
  unfold stepGap
  split <;> first | rfl | exact absurd h (by decide)

theorem run_inWord {word : List Char} (h : ∀ c ∈ word, endsWord c = false) (seen : List Char) :
    run { tokens, mode := .word seen } (word ++ rest) =
      run { tokens, mode := .word (word.reverse ++ seen) } rest := by
  induction word generalizing seen with
  | nil => rfl
  | cons c word ih =>
    have hc : endsWord c = false := h c List.mem_cons_self
    have hstep : step { tokens, mode := .word seen } c =
        some { tokens, mode := .word (c :: seen) } := by simp [step, hc]
    rw [List.cons_append, run_of_step hstep, ih fun d hd => h d (List.mem_cons_of_mem c hd)]
    simp

/-- **A word becomes its token** when the text goes on or ends. -/
theorem run_word {word : List Char} {t : Token} (hword : wordToken? word.reverse = some t)
    (h : ∀ c ∈ word, endsWord c = false) (hne : word ≠ []) (hrest : Stops rest) :
    run { tokens } (word ++ rest) = run { tokens := t :: tokens } rest := by
  obtain ⟨c, cs, rfl⟩ := List.exists_cons_of_ne_nil hne
  have hfirst : step { tokens } c = some { tokens, mode := .word [c] } :=
    congrArg some (stepGap_of_not_endsWord (h c List.mem_cons_self) tokens)
  rw [List.reverse_cons] at hword
  rw [List.cons_append, run_of_step hfirst,
    run_inWord (fun d hd => h d (List.mem_cons_of_mem c hd)) [c]]
  cases rest with
  | nil => simp [run, finish, hword]
  | cons d rest =>
    have hd : endsWord d = true := hrest d rfl
    simp [run_cons, step, hd, hword]

/-- **An escaped character is read as that character.** -/
theorem run_escape (c : Char) (seen : List Char) :
    run { tokens, mode := .text { chars := seen } } (escape c ++ rest) =
      run { tokens, mode := .text { chars := c :: seen } } rest := by
  unfold escape
  -- seven characters have an escape of one letter
  iterate 7
    split
    · next h =>
      subst h
      rfl
  split
  · next hcontrol =>
    have hvalue : 16 * (16 * 0 + c.toNat / 16 % 16) + c.toNat % 16 % 16 = c.toNat := by omega
    have hhigh : step { tokens, mode := .unit { chars := seen } 1 0 } (Hex.digit (c.toNat / 16)) =
        some { tokens, mode := .unit { chars := seen } 0 (16 * 0 + c.toNat / 16 % 16) } := by
      simp only [step, Hex.digitValue?_digit, Option.map_some]
    have hlow : step { tokens, mode := .unit { chars := seen } 0 (16 * 0 + c.toNat / 16 % 16) }
        (Hex.digit (c.toNat % 16)) =
          some { tokens, mode := .text (Literal.pushUnit { chars := seen } c.toNat) } := by
      simp only [step, Hex.digitValue?_digit, Option.map_some, hvalue]
    have hunit : Literal.pushUnit { chars := seen } c.toNat = { chars := c :: seen } := by
      unfold Literal.pushUnit
      rw [if_neg (by omega), if_neg (by omega), Char.ofNat_toNat]
      rfl
    calc run { tokens, mode := .text { chars := seen } } ('\\' :: 'u' :: '0' :: '0' ::
          Hex.digit (c.toNat / 16) :: Hex.digit (c.toNat % 16) :: rest)
        = run { tokens, mode := .unit { chars := seen } 1 0 }
            (Hex.digit (c.toNat / 16) :: Hex.digit (c.toNat % 16) :: rest) := rfl
      _ = run { tokens, mode := .text (Literal.pushUnit { chars := seen } c.toNat) } rest := by
          rw [run_of_step hhigh, run_of_step hlow]
      _ = run { tokens, mode := .text { chars := c :: seen } } rest := by rw [hunit]
  · next hquote hbackslash _ _ _ _ _ hplain =>
    refine run_of_step ?_ rest
    simp only [step, if_neg hquote, if_neg hbackslash, if_neg hplain]
    rfl

/-- **A string is read as the text it was written for.** -/
theorem run_quoted (s : String) (tokens : List Token) (rest : List Char) :
    run { tokens } (quoted s ++ rest) = run { tokens := .text (some s) :: tokens } rest := by
  have hbody : ∀ (cs seen : List Char),
      run { tokens, mode := .text { chars := seen } } (cs.flatMap escape ++ '"' :: rest) =
        run { tokens := .text (some (String.ofList (cs.reverse ++ seen).reverse)) :: tokens }
          rest := by
    intro cs
    induction cs with
    | nil => exact fun seen => rfl
    | cons c cs ih =>
      intro seen
      rw [List.flatMap_cons, List.append_assoc, run_escape, ih]
      simp
  have hopen : run { tokens } (quoted s ++ rest) =
      run { tokens, mode := .text {} } (s.toList.flatMap escape ++ '"' :: rest) := by
    unfold quoted
    rw [List.cons_append, List.append_assoc]
    rfl
  rw [hopen, hbody]
  simp

end Lexer

/-! ## Documents and their tokens -/

namespace Document

mutual

/-- The tokens of a document. -/
def tokens : Document → List Token
  | .null => [.null]
  | .bool b => [.bool b]
  | .num n => [.num n]
  | .text s => [.text s]
  | .arr items => .beginArray :: (itemTokens items ++ [.endArray])
  | .obj fields => .beginObject :: (fieldTokens fields ++ [.endObject])

/-- Items with commas between them. -/
def itemTokens : List Document → List Token
  | [] => []
  | [d] => tokens d
  | d :: ds => tokens d ++ .comma :: itemTokens ds

/-- Fields with commas between them. -/
def fieldTokens : List (Option String × Document) → List Token
  | [] => []
  | [(k, d)] => .text k :: .colon :: tokens d
  | (k, d) :: fs => .text k :: .colon :: (tokens d ++ .comma :: fieldTokens fs)

end

mutual

/-- The document of a value. -/
def ofJson : Json → Document
  | .null => .null
  | .bool b => .bool b
  | .num n => .num n
  | .str s => .text (some s)
  | .arr items => .arr (ofItems items)
  | .obj fields => .obj (ofFields fields)

/-- The documents of all items. -/
def ofItems : List Json → List Document
  | [] => []
  | v :: vs => ofJson v :: ofItems vs

/-- The names and documents of all fields. -/
def ofFields : List (String × Json) → List (Option String × Document)
  | [] => []
  | (k, v) :: fs => (some k, ofJson v) :: ofFields fs

end

mutual

/-- **A value's document has that value.** -/
theorem value?_ofJson : ∀ j : Json, (ofJson j).value? = some j
  | .null => rfl
  | .bool _ => rfl
  | .num _ => rfl
  | .str _ => rfl
  | .arr items => congrArg (Option.map Json.arr) (values?_ofItems items)
  | .obj fields => congrArg (Option.map Json.obj) (fieldValues?_ofFields fields)

theorem values?_ofItems : ∀ items : List Json, values? (ofItems items) = some items
  | [] => rfl
  | v :: vs => by simp [ofItems, values?, value?_ofJson v, values?_ofItems vs]

theorem fieldValues?_ofFields : ∀ fields : List (String × Json),
    fieldValues? (ofFields fields) = some fields
  | [] => rfl
  | (k, v) :: fs => by simp [ofFields, fieldValues?, value?_ofJson v, fieldValues?_ofFields fs]

end

/-! ## The reader -/

theorem itemTokens_cons_cons (d e : Document) (ds : List Document) :
    itemTokens (d :: e :: ds) = d.tokens ++ .comma :: itemTokens (e :: ds) := rfl

theorem fieldTokens_cons_cons (k : Option String) (d : Document) (f : Option String × Document)
    (fs : List (Option String × Document)) :
    fieldTokens ((k, d) :: f :: fs) =
      .text k :: .colon :: (d.tokens ++ .comma :: fieldTokens (f :: fs)) := rfl

/-- Where an array may end at once, its first item is read as any other. -/
theorem foldlM_item (d : Document) (ds : List Document) (stack : List Frame) (more : List Token) :
    (itemTokens (d :: ds) ++ more).foldlM Reader.step (.item stack) =
      (itemTokens (d :: ds) ++ more).foldlM Reader.step (.value (.arr [] :: stack)) := by
  have hfirst : ∀ more : List Token, (d.tokens ++ more).foldlM Reader.step (.item stack) =
      (d.tokens ++ more).foldlM Reader.step (.value (.arr [] :: stack)) := by
    intro more
    cases d <;> rfl
  cases ds with
  | nil => exact hfirst more
  | cons e ds =>
    rw [itemTokens_cons_cons, List.append_assoc]
    exact hfirst _

mutual

/-- **The tokens of a document are read as that document**, wherever it stands. -/
theorem foldlM_tokens : ∀ (d : Document) (stack : List Frame) (more : List Token),
    (d.tokens ++ more).foldlM Reader.step (.value stack) = more.foldlM Reader.step (.after d stack)
  | .null, _, _ => rfl
  | .bool _, _, _ => rfl
  | .num _, _, _ => rfl
  | .text _, _, _ => rfl
  | .arr [], _, _ => rfl
  | .arr (d :: ds), stack, more => by
      calc (tokens (.arr (d :: ds)) ++ more).foldlM Reader.step (.value stack)
          = (itemTokens (d :: ds) ++ .endArray :: more).foldlM Reader.step (.item stack) := by
            rw [tokens, List.cons_append, List.append_assoc]
            rfl
        _ = (itemTokens (d :: ds) ++ .endArray :: more).foldlM Reader.step
              (.value (.arr [] :: stack)) := foldlM_item d ds stack _
        _ = more.foldlM Reader.step (.after (.arr (d :: ds)) stack) :=
            foldlM_itemTokens (d :: ds) (List.cons_ne_nil d ds) [] stack more
  | .obj [], _, _ => rfl
  | .obj (f :: fs), stack, more => by
      calc (tokens (.obj (f :: fs)) ++ more).foldlM Reader.step (.value stack)
          = (fieldTokens (f :: fs) ++ .endObject :: more).foldlM Reader.step
              (.key [] true stack) := by
            rw [tokens, List.cons_append, List.append_assoc]
            rfl
        _ = more.foldlM Reader.step (.after (.obj (f :: fs)) stack) :=
            foldlM_fieldTokens (f :: fs) (List.cons_ne_nil f fs) [] true stack more

/-- The items of an array, after those that are `done`. -/
theorem foldlM_itemTokens : ∀ (ds : List Document), ds ≠ [] → ∀ (done : List Document)
    (stack : List Frame) (more : List Token),
    (itemTokens ds ++ .endArray :: more).foldlM Reader.step (.value (.arr done :: stack)) =
      more.foldlM Reader.step (.after (.arr (done.reverse ++ ds)) stack)
  | [], hne, _, _, _ => absurd rfl hne
  | [d], _, done, stack, more => by
      rw [itemTokens, foldlM_tokens d, ← List.reverse_cons]
      rfl
  | d :: e :: ds, _, done, stack, more => by
      have hrest := foldlM_itemTokens (e :: ds) (List.cons_ne_nil e ds) (d :: done) stack more
      rw [List.reverse_cons, List.append_assoc] at hrest
      rw [itemTokens_cons_cons, List.append_assoc, foldlM_tokens d]
      exact hrest

/-- The fields of an object, after those that are `done`. -/
theorem foldlM_fieldTokens : ∀ (fs : List (Option String × Document)), fs ≠ [] →
    ∀ (done : List (Option String × Document)) (mayEnd : Bool) (stack : List Frame)
      (more : List Token),
    (fieldTokens fs ++ .endObject :: more).foldlM Reader.step (.key done mayEnd stack) =
      more.foldlM Reader.step (.after (.obj (done.reverse ++ fs)) stack)
  | [], hne, _, _, _, _ => absurd rfl hne
  | [(k, d)], _, done, mayEnd, stack, more => by
      have hvalue := foldlM_tokens d (.obj done k :: stack) (.endObject :: more)
      rw [← List.reverse_cons]
      cases mayEnd <;> exact hvalue
  | (k, d) :: f :: fs, _, done, mayEnd, stack, more => by
      have hvalue := foldlM_tokens d (.obj done k :: stack)
        (.comma :: (fieldTokens (f :: fs) ++ .endObject :: more))
      have hrest :=
        foldlM_fieldTokens (f :: fs) (List.cons_ne_nil f fs) ((k, d) :: done) false stack more
      rw [List.reverse_cons, List.append_assoc] at hrest
      rw [fieldTokens_cons_cons, List.cons_append, List.cons_append, List.append_assoc]
      cases mayEnd <;> exact hvalue.trans hrest

end

theorem ofTokens?_tokens (d : Document) : ofTokens? d.tokens = some d := by
  have hread := foldlM_tokens d [] []
  rw [List.append_nil] at hread
  unfold ofTokens?
  rw [hread]
  rfl

end Document

/-! ## Texts of values -/

/-- A value all of whose numbers are integers. -/
inductive Whole : Json → Prop where
  | null : Whole .null
  | bool (b : Bool) : Whole (.bool b)
  | int (n : Int) : Whole (.num (.int n))
  | str (s : String) : Whole (.str s)
  | arr {items : List Json} (h : ∀ v ∈ items, Whole v) : Whole (.arr items)
  | obj {fields : List (String × Json)} (h : ∀ f ∈ fields, Whole f.2) : Whole (.obj fields)

theorem itemChars_cons_cons (v w : Json) (vs : List Json) :
    itemChars (v :: w :: vs) = chars v ++ ',' :: itemChars (w :: vs) := rfl

theorem fieldChars_cons_cons (k : String) (v : Json) (f : String × Json)
    (fs : List (String × Json)) :
    fieldChars ((k, v) :: f :: fs) = quoted k ++ ':' :: (chars v ++ ',' :: fieldChars (f :: fs)) :=
  rfl

/-- The text of a value is read as its tokens, wherever it stands. -/
def Lexes (j : Json) : Prop :=
  ∀ (seen : List Token) (rest : List Char), Stops rest →
    Lexer.run { tokens := seen } (chars j ++ rest) =
      Lexer.run { tokens := (Document.ofJson j).tokens.reverse ++ seen } rest

theorem stops_of_endsWord {c : Char} (h : Lexer.endsWord c = true) (rest : List Char) :
    Stops (c :: rest) := by
  rintro d ⟨⟩
  exact h

theorem lexes_word {j : Json} {t : Token} (ht : (Document.ofJson j).tokens = [t])
    (hword : wordToken? (chars j).reverse = some t)
    (h : ∀ c ∈ chars j, Lexer.endsWord c = false) (hne : chars j ≠ []) : Lexes j := by
  intro seen rest hrest
  rw [ht, Lexer.run_word hword h hne hrest]
  rfl

theorem run_itemChars {items : List Json} (h : ∀ v ∈ items, Lexes v) (seen : List Token)
    (rest : List Char) :
    Lexer.run { tokens := seen } (itemChars items ++ ']' :: rest) =
      Lexer.run { tokens := .endArray ::
        ((Document.itemTokens (Document.ofItems items)).reverse ++ seen) } rest := by
  induction items generalizing seen with
  | nil => rfl
  | cons v vs ih =>
    have hv : Lexes v := h v List.mem_cons_self
    cases vs with
    | nil => exact hv seen (']' :: rest) (stops_of_endsWord (by decide) rest)
    | cons w ws =>
      have hstops := stops_of_endsWord (c := ',') (by decide) (itemChars (w :: ws) ++ ']' :: rest)
      have htokens : Document.itemTokens (Document.ofItems (v :: w :: ws)) =
          (Document.ofJson v).tokens ++
            .comma :: Document.itemTokens (Document.ofItems (w :: ws)) := rfl
      have hrest := ih (fun x hx => h x (List.mem_cons_of_mem v hx))
        (.comma :: ((Document.ofJson v).tokens.reverse ++ seen))
      rw [itemChars_cons_cons, List.append_assoc, List.cons_append, hv seen _ hstops, htokens]
      simp only [List.reverse_append, List.reverse_cons, List.append_assoc]
      exact hrest

theorem run_fieldChars {fields : List (String × Json)} (h : ∀ f ∈ fields, Lexes f.2)
    (seen : List Token) (rest : List Char) :
    Lexer.run { tokens := seen } (fieldChars fields ++ '\x7d' :: rest) =
      Lexer.run { tokens := .endObject ::
        ((Document.fieldTokens (Document.ofFields fields)).reverse ++ seen) } rest := by
  induction fields generalizing seen with
  | nil => rfl
  | cons f fs ih =>
    obtain ⟨k, v⟩ := f
    have hv : Lexes v := h (k, v) List.mem_cons_self
    -- the key and the colon after it
    have hkey : ∀ cs : List Char, Lexer.run { tokens := seen } (quoted k ++ ':' :: cs) =
        Lexer.run { tokens := .colon :: .text (some k) :: seen } cs :=
      fun cs => Lexer.run_quoted k seen (':' :: cs)
    cases fs with
    | nil =>
      have htokens : Document.fieldTokens (Document.ofFields [(k, v)]) =
          .text (some k) :: .colon :: (Document.ofJson v).tokens := rfl
      have hvalue := hv (.colon :: .text (some k) :: seen) ('\x7d' :: rest)
        (stops_of_endsWord (by decide) rest)
      rw [fieldChars, List.append_assoc, List.cons_append, hkey, hvalue, htokens]
      simp only [List.reverse_cons, List.append_assoc]
      rfl
    | cons f fs =>
      have hstops :=
        stops_of_endsWord (c := ',') (by decide) (fieldChars (f :: fs) ++ '\x7d' :: rest)
      have htokens : Document.fieldTokens (Document.ofFields ((k, v) :: f :: fs)) =
          .text (some k) :: .colon :: ((Document.ofJson v).tokens ++
            .comma :: Document.fieldTokens (Document.ofFields (f :: fs))) := rfl
      have hvalue := hv (.colon :: .text (some k) :: seen) _ hstops
      have hrest := ih (fun x hx => h x (List.mem_cons_of_mem (k, v) hx))
        (.comma :: ((Document.ofJson v).tokens.reverse ++ .colon :: .text (some k) :: seen))
      rw [fieldChars_cons_cons, List.append_assoc, List.cons_append, hkey, List.append_assoc,
        List.cons_append, hvalue, htokens]
      simp only [List.reverse_append, List.reverse_cons, List.append_assoc]
      exact hrest

/-- **The text of a value is read as the tokens of its document.** -/
theorem lexes_of_whole {j : Json} (h : Whole j) : Lexes j := by
  induction h with
  | null => exact lexes_word rfl rfl (by simp [chars, Lexer.endsWord]) (by decide)
  | bool b => cases b <;> exact lexes_word rfl rfl (by simp [chars, Lexer.endsWord]) (by decide)
  | int n =>
    refine lexes_word (t := .num (.int n)) rfl (wordToken?_numeral n)
      (fun c => Number.endsWord_of_mem_chars) ?_
    cases n with
    | ofNat n => exact Decimal.digits_ne_nil n
    | negSucc n => exact List.cons_ne_nil _ _
  | str s => exact fun seen rest _ => Lexer.run_quoted s seen rest
  | @arr items _ ih =>
    intro seen rest _
    have hitems := run_itemChars ih (.beginArray :: seen) rest
    rw [chars, List.cons_append, List.append_assoc, Document.ofJson, Document.tokens]
    simp only [List.reverse_append, List.reverse_cons, List.append_assoc]
    exact hitems
  | @obj fields _ ih =>
    intro seen rest _
    have hfields := run_fieldChars ih (.beginObject :: seen) rest
    rw [chars, List.cons_append, List.append_assoc, Document.ofJson, Document.tokens]
    simp only [List.reverse_append, List.reverse_cons, List.append_assoc]
    exact hfields

theorem tokens?_chars {j : Json} (h : Whole j) :
    tokens? j.chars = some (Document.ofJson j).tokens := by
  have hrun := lexes_of_whole h [] [] nofun
  rw [List.append_nil, List.append_nil] at hrun
  have hlast : ∀ ts : List Token, Lexer.run { tokens := ts } [] = some ts.reverse := fun _ => rfl
  rw [hlast, List.reverse_reverse] at hrun
  exact hrun

/-- **Text and document**: the text of a value, taken apart, is the document of the value. -/
theorem Document.parse?_render {j : Json} (h : Whole j) :
    Document.parse? j.render = some (.ofJson j) := by
  unfold Document.parse? render
  rw [String.toList_ofList, tokens?_chars h]
  exact Document.ofTokens?_tokens _

/-- **The text of a value is read as that value.** -/
theorem parse?_render {j : Json} (h : Whole j) : parse? j.render = some j := by
  unfold parse?
  rw [Document.parse?_render h]
  exact Document.value?_ofJson j

end Json
end ThumbDrive
