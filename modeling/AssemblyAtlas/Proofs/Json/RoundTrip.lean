import AssemblyAtlas.Json.Parser
import AssemblyAtlas.Json.Printer
import AssemblyAtlas.Proofs.Json.Numeral

/-!
# JSON reads back what it writes

The compact text of a value is read back as that value, whatever texts, numbers and depth it has:
`Json.parse?_render`.

The proof goes through the tokens of a value, `Json.tokens`. `Scan.run_renderChars` says that the
scanner turns the characters of a value into its tokens, whatever follows them, as long as the
next character cannot continue a word or a number. `Reading.foldlM_tokens` says that the reader
turns the tokens of a value back into it, whatever containers are unfinished.
-/

namespace AssemblyAtlas.Json

mutual
/-- The tokens of a value. -/
def tokens : Json → List Token
  | .null => [.null]
  | .bool b => [.bool b]
  | .number n => [.number n]
  | .string s => [.string s]
  | .array [] => [.openBracket, .closeBracket]
  | .array (j :: js) => .openBracket :: tokens j ++ tokensOfItems js
  | .object [] => [.openBrace, .closeBrace]
  | .object ((k, j) :: fs) => .openBrace :: .string k :: .colon :: tokens j ++ tokensOfFields fs
/-- The tokens of the items after the first one, and of the closing bracket. -/
def tokensOfItems : List Json → List Token
  | [] => [.closeBracket]
  | j :: js => .comma :: tokens j ++ tokensOfItems js
/-- The tokens of the fields after the first one, and of the closing brace. -/
def tokensOfFields : List (Option String × Json) → List Token
  | [] => [.closeBrace]
  | (k, j) :: fs => .comma :: .string k :: .colon :: tokens j ++ tokensOfFields fs
end

/-! ### Scanning -/

namespace Scan

/-- The tokens of a text that is read from a state on. -/
def run (s : Scan) (cs : List Char) : Option (List Token) :=
  ((cs.map some).foldlM step s).bind finish

theorem run_cons (s : Scan) (c : Char) (cs : List Char) :
    s.run (c :: cs) = (s.step (some c)).bind fun s' => s'.run cs := by
  simp only [run, List.map_cons, List.foldlM_cons]
  cases s.step (some c) <;> rfl

/-- No word and no number goes on in these characters. -/
def Delimited (cs : List Char) : Prop :=
  ∀ c ∈ cs.head?, isNumberChar c = false ∧ isWordChar c = false

theorem delimited_nil : Delimited [] := by
  simp [Delimited]

theorem delimited_cons {c : Char} {cs : List Char} (hn : isNumberChar c = false)
    (hw : isWordChar c = false) : Delimited (c :: cs) := by
  simp [Delimited, hn, hw]

/-- A word ends before a delimiter. -/
theorem run_word {w : List Char} {t : Token} {ts : List Token} {rest : List Char}
    (ht : wordToken? w.reverse = some t) (hrest : Delimited rest) :
    run ⟨.word w, ts⟩ rest = run ⟨.between, t :: ts⟩ rest := by
  cases rest with
  | nil => simp [run, finish, ht]
  | cons c cs =>
    have hc := (hrest c (by simp)).2
    simp [run_cons, step, hc, ht]

/-- A number ends before a delimiter. -/
theorem run_number {cs : List Char} {n : Numeral} {ts : List Token} {rest : List Char}
    (hn : Numeral.ofChars? cs.reverse = some n) (hrest : Delimited rest) :
    run ⟨.number cs, ts⟩ rest = run ⟨.between, .number n :: ts⟩ rest := by
  cases rest with
  | nil => simp [run, finish, hn]
  | cons c cs' =>
    have hc := (hrest c (by simp)).1
    simp [run_cons, step, hc, hn]

/-- The characters of a number are collected, latest first. -/
theorem run_number_append {cs : List Char} (hcs : ∀ c ∈ cs, isNumberChar c = true)
    (seen : List Char) (ts : List Token) (rest : List Char) :
    run ⟨.number seen, ts⟩ (cs ++ rest) = run ⟨.number (cs.reverse ++ seen), ts⟩ rest := by
  induction cs generalizing seen with
  | nil => rfl
  | cons c cs ih =>
    have hc := hcs c List.mem_cons_self
    have := ih (fun x hx => hcs x (List.mem_cons_of_mem _ hx)) (c :: seen)
    simpa [run_cons, step, hc] using this

theorem start_of_digit {c : Char} (h : c = '-' ∨ c.isDigit = true) (ts : List Token) :
    start ts c = some ⟨.number [c], ts⟩ := by
  rcases h with rfl | h
  · rfl
  · have hrange : ('0' ≤ c && c ≤ '9') = true := by simpa [Char.isDigit, Char.le_def] using h
    have hspace : isSpace c = false := by
      simp only [isSpace, Bool.or_eq_false_iff, beq_eq_false_iff_ne]
      refine ⟨⟨⟨?_, ?_⟩, ?_⟩, ?_⟩ <;> rintro rfl <;> exact absurd h (by decide)
    have hquote : c ≠ '"' := by rintro rfl; exact absurd h (by decide)
    simp [start, hspace, hquote, hrange]

theorem run_render (n : Numeral) (ts : List Token) {rest : List Char} (hrest : Delimited rest) :
    run ⟨.between, ts⟩ (n.render ++ rest) = run ⟨.between, .number n :: ts⟩ rest := by
  obtain ⟨c, cs, hcs, hc⟩ := n.exists_render_eq_cons
  have hall : ∀ x ∈ cs, isNumberChar x = true := fun x hx =>
    Numeral.isNumberChar_of_mem_render (hcs ▸ List.mem_cons_of_mem _ hx)
  have hread : Numeral.ofChars? (cs.reverse ++ [c]).reverse = some n := by
    simpa [hcs] using n.ofChars?_render
  calc run ⟨.between, ts⟩ (n.render ++ rest)
      = run ⟨.number [c], ts⟩ (cs ++ rest) := by
        simp [hcs, run_cons, step, start_of_digit hc]
    _ = run ⟨.number (cs.reverse ++ [c]), ts⟩ rest := run_number_append hall [c] ts rest
    _ = run ⟨.between, .number n :: ts⟩ rest := run_number hread hrest

/-! ### String literals -/

theorem hexDigit?_hexDigit (n : Nat) : Text.hexDigit? (hexDigit n) = some (n % 16) := by
  have hall : ∀ m < 16, Text.hexDigit? (Nat.digitChar m) = some m := by decide
  exact hall _ (Nat.mod_lt _ (by omega))

/-- The piece as which a character of a text is read back. -/
def pieceOf (c : Char) : Piece :=
  if c.toNat < 0x20 ∧ c.toNat ∉ [0x8, 0x9, 0xA, 0xC, 0xD] then .unit c.toNat else .char c

theorem run_escape (c : Char) (ps : List Piece) (ts : List Token) (rest : List Char) :
    run ⟨.string ps, ts⟩ (escape c ++ rest) = run ⟨.string (pieceOf c :: ps), ts⟩ rest := by
  unfold escape
  split
  · rename_i h
    rw [beq_iff_eq.1 h]; rfl
  split
  · rename_i h
    rw [beq_iff_eq.1 h]; rfl
  split
  · rename_i hq hb hlt
    have hofNat : ∀ n, c.toNat = n → c = Char.ofNat n := by
      rintro n rfl; exact (Char.ofNat_toNat c).symm
    split
    · rename_i h; rw [hofNat _ h]; rfl
    · rename_i h; rw [hofNat _ h]; rfl
    · rename_i h; rw [hofNat _ h]; rfl
    · rename_i h; rw [hofNat _ h]; rfl
    · rename_i h; rw [hofNat _ h]; rfl
    · rename_i h1 h2 h3 h4 h5
      have hpiece : pieceOf c = .unit c.toNat := by
        simp only [pieceOf, hlt, List.mem_cons, List.not_mem_nil, or_false, not_or, true_and]
        exact if_pos ⟨h1, h2, h3, h4, h5⟩
      have hvalue : c.toNat / 16 % 16 * 16 + c.toNat % 16 = c.toNat := by omega
      have hzero : Text.hexDigit? '0' = some 0 := rfl
      simp [run_cons, step, hexDigit?_hexDigit, hzero, hpiece, hvalue]
  · rename_i hq hb hlt
    have hpiece : pieceOf c = .char c := by simp [pieceOf, hlt]
    simp only [beq_iff_eq] at hq hb
    simp [run_cons, step, hq, hb, hlt, hpiece]

theorem run_escapes (cs : List Char) (ps : List Piece) (ts : List Token) (rest : List Char) :
    run ⟨.string ps, ts⟩ (cs.flatMap escape ++ rest) =
      run ⟨.string ((cs.map pieceOf).reverse ++ ps), ts⟩ rest := by
  induction cs generalizing ps with
  | nil => rfl
  | cons c cs ih => simp [run_escape, ih]

theorem chars?_map_pieceOf (cs : List Char) : Piece.chars? (cs.map pieceOf) = some cs := by
  induction cs with
  | nil => rfl
  | cons c cs ih =>
    rw [List.map_cons]
    by_cases h : c.toNat < 0x20 ∧ c.toNat ∉ [0x8, 0x9, 0xA, 0xC, 0xD]
    · -- a control character is no surrogate
      have h1 : ¬ 0xD800 ≤ c.toNat := by omega
      have h2 : ¬ 0xDC00 ≤ c.toNat := by omega
      rw [pieceOf, if_pos h]
      unfold Piece.chars?
      simp [h1, h2, ih]
    · rw [pieceOf, if_neg h]
      simp [Piece.chars?, ih]

theorem run_renderString (s : Option String) (ts : List Token) (rest : List Char) :
    run ⟨.between, ts⟩ (renderString s ++ rest) = run ⟨.between, .string s :: ts⟩ rest := by
  cases s with
  | none => rfl
  | some s =>
    have hread : Piece.text? (s.toList.map pieceOf).reverse = some s := by
      simp [Piece.text?, chars?_map_pieceOf]
    have hopen : ∀ cs, run ⟨.between, ts⟩ ('"' :: cs) = run ⟨.string [], ts⟩ cs := fun _ => rfl
    have hclose : ∀ ps cs, run ⟨.string ps, ts⟩ ('"' :: cs) =
        run ⟨.between, .string (Piece.text? ps) :: ts⟩ cs := fun _ _ => rfl
    simp only [renderString, List.cons_append, List.append_assoc, hopen, run_escapes,
      List.append_nil, List.nil_append, hclose, hread]

/-! ### Values -/

/-- A single character that is a token by itself. -/
theorem run_punctuation (c : Char) (t : Token) (h : ∀ ts, start ts c = some ⟨.between, t :: ts⟩)
    (ts : List Token) (rest : List Char) :
    run ⟨.between, ts⟩ (c :: rest) = run ⟨.between, t :: ts⟩ rest := by
  simp [run_cons, step, h]

/-- What follows a value inside an array delimits it. -/
theorem delimited_renderItems (js : List Json) (rest : List Char) :
    Delimited (renderItems js ++ rest) := by
  cases js <;> exact delimited_cons (by decide) (by decide)

/-- What follows a value inside an object delimits it. -/
theorem delimited_renderFields (fs : List (Option String × Json)) (rest : List Char) :
    Delimited (renderFields fs ++ rest) := by
  cases fs <;> exact delimited_cons (by decide) (by decide)

mutual
/-- **The scanner finds the tokens of a value**, whatever delimiter follows it. -/
theorem run_renderChars (ts : List Token) {rest : List Char} (hrest : Delimited rest) :
    ∀ j : Json, run ⟨.between, ts⟩ (renderChars j ++ rest) =
      run ⟨.between, j.tokens.reverse ++ ts⟩ rest
  | .null => run_word (w := ['l', 'l', 'u', 'n']) rfl hrest
  | .bool true => run_word (w := ['e', 'u', 'r', 't']) rfl hrest
  | .bool false => run_word (w := ['e', 's', 'l', 'a', 'f']) rfl hrest
  | .number n => run_render n ts hrest
  | .string s => run_renderString s ts rest
  | .array [] => rfl
  | .array (j :: js) => by
    simp only [renderChars, Json.tokens, List.cons_append, List.append_assoc,
      run_punctuation '[' .openBracket fun _ => rfl]
    rw [run_renderChars _ (delimited_renderItems js rest) j, run_renderItems _ js]
    simp
  | .object [] => rfl
  | .object ((k, j) :: fs) => by
    simp only [renderChars, Json.tokens, List.cons_append, List.append_assoc, run_renderString,
      run_punctuation '{' .openBrace fun _ => rfl, run_punctuation ':' .colon fun _ => rfl]
    rw [run_renderChars _ (delimited_renderFields fs rest) j, run_renderFields _ fs]
    simp
theorem run_renderItems (ts : List Token) {rest : List Char} :
    ∀ js : List Json, run ⟨.between, ts⟩ (renderItems js ++ rest) =
      run ⟨.between, (tokensOfItems js).reverse ++ ts⟩ rest
  | [] => rfl
  | j :: js => by
    simp only [renderItems, tokensOfItems, List.cons_append, List.append_assoc,
      run_punctuation ',' .comma fun _ => rfl]
    rw [run_renderChars _ (delimited_renderItems js rest) j, run_renderItems _ js]
    simp
theorem run_renderFields (ts : List Token) {rest : List Char} :
    ∀ fs : List (Option String × Json), run ⟨.between, ts⟩ (renderFields fs ++ rest) =
      run ⟨.between, (tokensOfFields fs).reverse ++ ts⟩ rest
  | [] => rfl
  | (k, j) :: fs => by
    simp only [renderFields, tokensOfFields, List.cons_append, List.append_assoc, run_renderString,
      run_punctuation ',' .comma fun _ => rfl, run_punctuation ':' .colon fun _ => rfl]
    rw [run_renderChars _ (delimited_renderFields fs rest) j, run_renderFields _ fs]
    simp
end

end Scan

theorem scan_renderChars (j : Json) :
    Token.scan ((renderChars j).map some) = some j.tokens := by
  have h := Scan.run_renderChars [] Scan.delimited_nil j
  simp only [List.append_nil] at h
  change Scan.run ⟨.between, []⟩ (renderChars j) = some j.tokens
  rw [h]
  simp [Scan.run, Scan.finish]

/-! ### Reading tokens -/

namespace Reading

/-- The first token of a value starts it inside a fresh array as anywhere else. -/
theorem foldlM_firstItem (j : Json) (stack : List Frame) (rest : List Token) :
    (j.tokens ++ rest).foldlM step ⟨stack, .firstItem⟩ =
      (j.tokens ++ rest).foldlM step ⟨.array [] :: stack, .value⟩ := by
  rcases j with _ | b | n | s | (_ | ⟨j, js⟩) | (_ | ⟨⟨k, j⟩, fs⟩) <;> rfl

mutual
/-- **The reader turns the tokens of a value back into it**, whatever is unfinished around it. -/
theorem foldlM_tokens (stack : List Frame) (rest : List Token) :
    ∀ j : Json, (j.tokens ++ rest).foldlM step ⟨stack, .value⟩ =
      rest.foldlM step ⟨stack, .after j⟩
  | .null => rfl
  | .bool _ => rfl
  | .number _ => rfl
  | .string _ => rfl
  | .array [] => rfl
  | .array (j :: js) => by
    have hopen : ∀ ts : List Token, (Token.openBracket :: ts).foldlM step ⟨stack, .value⟩ =
        ts.foldlM step ⟨stack, .firstItem⟩ := fun _ => rfl
    simp only [tokens, List.cons_append, List.append_assoc, hopen]
    rw [foldlM_firstItem, foldlM_tokens _ _ j, foldlM_tokensOfItems stack rest [] j js]
    rfl
  | .object [] => rfl
  | .object ((k, j) :: fs) => by
    have hopen : ∀ ts : List Token,
        (Token.openBrace :: .string k :: .colon :: ts).foldlM step ⟨stack, .value⟩ =
          ts.foldlM step ⟨.object [] k :: stack, .value⟩ := fun _ => rfl
    simp only [tokens, List.cons_append, List.append_assoc, hopen]
    rw [foldlM_tokens _ _ j, foldlM_tokensOfFields stack rest [] k j fs]
    rfl
theorem foldlM_tokensOfItems (stack : List Frame) (rest : List Token) (seen : List Json)
    (j : Json) : ∀ js : List Json,
      (tokensOfItems js ++ rest).foldlM step ⟨.array seen :: stack, .after j⟩ =
        rest.foldlM step ⟨stack, .after (.array (seen.reverse ++ j :: js))⟩
  | [] => by
    have hclose : ∀ ts : List Token,
        (Token.closeBracket :: ts).foldlM step ⟨.array seen :: stack, .after j⟩ =
          ts.foldlM step ⟨stack, .after (.array (j :: seen).reverse)⟩ := fun _ => rfl
    simp only [tokensOfItems, List.cons_append, List.nil_append, hclose, List.reverse_cons]
  | i :: js => by
    have hcomma : ∀ ts : List Token,
        (Token.comma :: ts).foldlM step ⟨.array seen :: stack, .after j⟩ =
          ts.foldlM step ⟨.array (j :: seen) :: stack, .value⟩ := fun _ => rfl
    simp only [tokensOfItems, List.cons_append, List.append_assoc, hcomma]
    rw [foldlM_tokens _ _ i, foldlM_tokensOfItems stack rest (j :: seen) i js]
    simp
theorem foldlM_tokensOfFields (stack : List Frame) (rest : List Token)
    (seen : List (Option String × Json)) (k : Option String) (j : Json) :
    ∀ fs : List (Option String × Json),
      (tokensOfFields fs ++ rest).foldlM step ⟨.object seen k :: stack, .after j⟩ =
        rest.foldlM step ⟨stack, .after (.object (seen.reverse ++ (k, j) :: fs))⟩
  | [] => by
    have hclose : ∀ ts : List Token,
        (Token.closeBrace :: ts).foldlM step ⟨.object seen k :: stack, .after j⟩ =
          ts.foldlM step ⟨stack, .after (.object ((k, j) :: seen).reverse)⟩ := fun _ => rfl
    simp only [tokensOfFields, List.cons_append, List.nil_append, hclose, List.reverse_cons]
  | (l, i) :: fs => by
    have hcomma : ∀ ts : List Token,
        (Token.comma :: .string l :: .colon :: ts).foldlM step
            ⟨.object seen k :: stack, .after j⟩ =
          ts.foldlM step ⟨.object ((k, j) :: seen) l :: stack, .value⟩ := fun _ => rfl
    simp only [tokensOfFields, List.cons_append, List.append_assoc, hcomma]
    rw [foldlM_tokens _ _ i, foldlM_tokensOfFields stack rest ((k, j) :: seen) l i fs]
    simp
end

end Reading

theorem ofTokens?_tokens (j : Json) : ofTokens? j.tokens = some j := by
  have h := Reading.foldlM_tokens [] [] j
  rw [List.append_nil] at h
  rw [ofTokens?, h]
  rfl

/-- **The text of a value is read back as the value.** -/
theorem parse?_render (j : Json) : parse? j.render = some j := by
  rw [parse?, render, String.toList_ofList, scan_renderChars]
  exact ofTokens?_tokens j

end AssemblyAtlas.Json
