import AssemblyAtlas.Paging.Cursor
import AssemblyAtlas.Proofs.Digest.Base64
import AssemblyAtlas.Proofs.Json.Decoding
import AssemblyAtlas.Proofs.Json.RoundTrip
import AssemblyAtlas.Proofs.Text.Utf8

/-!
# Page tokens

A token carries the two numbers of a request as integers of 64 bits with sign, in which the numbers
from `2 ^ 63` on are negative (`PageRequest.ofToken_token_eq`). It comes back as the request it was
made for, if both numbers are below `2 ^ 63` and the size is not zero (`PageRequest.ofToken_token`).
Every other token of a request is refused, so that none comes back as another request
(`PageRequest.ofToken_exact`).
-/

namespace AssemblyAtlas

namespace Json

theorem parseBytes?_encode (s : String) : parseBytes? (Text.Utf8.encode s) = parse? s := by
  rw [parseBytes?, parse?, Text.Utf8.decode_encode]

theorem renderChars_record_ne_nil (fields : List (String × Json)) :
    (record fields).renderChars ≠ [] := by
  cases fields with
  | nil => simp [record, renderChars]
  | cons f fields => simp [record, renderChars]

end Json

namespace PageRequest

open Json

theorem signed_bounds (n : Nat) : Word.int64Min ≤ signed n ∧ signed n ≤ Word.int64Max := by
  have hlow := Int.le_bmod (x := n) (m := Word.count64) (by decide)
  have hhigh := Int.bmod_lt (x := n) (m := Word.count64) (by decide)
  simp only [Word.count64] at hlow hhigh
  simp only [signed, Word.count64, Word.int64Min, Word.int64Max]
  omega

theorem signed_eq_self {n : Nat} (h : n < 2 ^ 63) : signed n = n := by
  rw [signed, Int.bmod_eq_of_le] <;> simp only [Word.count64] <;> omega

/-- A number of 64 bits that does not fit 63 bits becomes negative. -/
theorem signed_eq_sub {n : Nat} (h : 2 ^ 63 ≤ n) (hn : n < 2 ^ 64) : signed n = n - 2 ^ 64 := by
  have hmod : (n : Int) % Word.count64 = n :=
    Int.emod_eq_of_lt (Int.natCast_nonneg n) (by simp only [Word.count64]; omega)
  rw [signed, Int.bmod, hmod, if_neg] <;> simp only [Word.count64] <;> omega

/-- Two numbers of 64 bits are read back from their record. -/
theorem decodePayload_record {a b : Int} (ha : Word.int64Min ≤ a ∧ a ≤ Word.int64Max)
    (hb : Word.int64Min ≤ b ∧ b ≤ Word.int64Max) :
    decodePayload maxNesting (record [("offset", .int a), ("pageSize", .int b)]) = some (a, b) := by
  have hoffset : Decoder.int64 126 (.int a) = some a :=
    (Decoder.int64_recovers ha.1 ha.2 126 _).2 ⟨Nat.zero_le _, rfl⟩
  have hsize : Decoder.int64 126 (.int b) = some b :=
    (Decoder.int64_recovers hb.1 hb.2 126 _).2 ⟨Nat.zero_le _, rfl⟩
  have hfields : members ["offset", "pageSize"] 127
      (record [("offset", .int a), ("pageSize", .int b)]) =
        some ⟨false, [("offset", .int a), ("pageSize", .int b)], 126⟩ :=
    members_record (by simp) (by decide) 126
  simp [decodePayload, maxNesting, hfields, Members.required, Members.get?, List.lookup_cons,
    hoffset, hsize]

/-- A token that is not empty is read as Base64, then as a record of two numbers. -/
theorem ofToken_some {t : String} (h : t ≠ "") (defaultSize : Nat) :
    ofToken (some t) defaultSize =
      match Base64.decode t.toList with
      | none => .error (.cursor .notBase64)
      | some bytes => match (parseBytes? bytes).bind (decodePayload maxNesting) with
        | none => .error (.cursor .badPayload)
        | some (offset, size) =>
          if offset < 0 then .error (.cursor (.negativeOffset offset))
          else if size ≤ 0 then .error (.cursor (.emptyPage size))
          else .ok ⟨offset.toNat, size.toNat⟩ := by
  unfold ofToken
  split
  · next h' => cases h'
  · next h' => exact absurd (Option.some.inj h') h
  · next t' _ h' =>
    obtain rfl := Option.some.inj h'
    cases Base64.decode t.toList with
    | none => rfl
    | some bytes =>
      dsimp only
      cases (parseBytes? bytes).bind (decodePayload maxNesting) with
      | none => rfl
      | some numbers => rfl

/-- The request of a token that holds two numbers. -/
theorem ofToken_of_numbers {t : String} (ht : t ≠ "") {bytes : List UInt8}
    (hbytes : Base64.decode t.toList = some bytes) {a b : Int}
    (hnumbers : (parseBytes? bytes).bind (decodePayload maxNesting) = some (a, b))
    (defaultSize : Nat) :
    ofToken (some t) defaultSize =
      if a < 0 then .error (.cursor (.negativeOffset a))
      else if b ≤ 0 then .error (.cursor (.emptyPage b))
      else .ok ⟨a.toNat, b.toNat⟩ := by
  rw [ofToken_some ht, hbytes]
  simp only [hnumbers]

theorem token_ne_empty (r : PageRequest) : r.token ≠ "" := by
  intro h
  have hempty : Base64.encode (Text.Utf8.encode r.payload.render) = [] := by
    rw [← String.toList_ofList (l := Base64.encode _)]
    exact congrArg String.toList h
  refine Base64.encode_ne_nil (Text.Utf8.encode_ne_nil ?_) hempty
  rw [render, String.toList_ofList]
  exact renderChars_record_ne_nil _

/-- A token holds the numbers of its request as 64 bits with sign, and is refused if one of them
has become negative or the size is zero. -/
theorem ofToken_token_eq (r : PageRequest) (defaultSize : Nat) :
    ofToken (some r.token) defaultSize =
      if signed r.offset < 0 then .error (.cursor (.negativeOffset (signed r.offset)))
      else if signed r.size ≤ 0 then .error (.cursor (.emptyPage (signed r.size)))
      else .ok ⟨(signed r.offset).toNat, (signed r.size).toNat⟩ := by
  have hbytes : Base64.decode r.token.toList = some (Text.Utf8.encode r.payload.render) := by
    rw [token, String.toList_ofList, Base64.decode_encode]
  have hnumbers : (parseBytes? (Text.Utf8.encode r.payload.render)).bind
      (decodePayload maxNesting) = some (signed r.offset, signed r.size) := by
    rw [parseBytes?_encode, parse?_render, Option.bind_some, payload]
    exact decodePayload_record (signed_bounds r.offset) (signed_bounds r.size)
  exact ofToken_of_numbers r.token_ne_empty hbytes hnumbers defaultSize

/-- **A token comes back as its request.** -/
theorem ofToken_token {r : PageRequest} (hoffset : r.offset < 2 ^ 63) (hpos : 0 < r.size)
    (hsize : r.size < 2 ^ 63) (defaultSize : Nat) :
    ofToken (some r.token) defaultSize = .ok r := by
  rw [ofToken_token_eq, signed_eq_self hoffset, signed_eq_self hsize, if_neg (by omega),
    if_neg (by omega)]
  rfl

/-- The token of any other request is refused: the sign or the zero shows. -/
theorem ofToken_token_refused {r : PageRequest} (hoffset : r.offset < 2 ^ 64)
    (hsize : r.size < 2 ^ 64) (h : ¬ (r.offset < 2 ^ 63 ∧ 0 < r.size ∧ r.size < 2 ^ 63))
    (defaultSize : Nat) :
    ∃ fault, ofToken (some r.token) defaultSize = .error (.cursor fault) := by
  rw [ofToken_token_eq]
  by_cases ho : r.offset < 2 ^ 63
  · have hs : signed r.size ≤ 0 := by
      by_cases hs : r.size < 2 ^ 63
      · rw [signed_eq_self hs]
        omega
      · rw [signed_eq_sub (by omega) hsize]
        omega
    rw [signed_eq_self ho, if_neg (by omega), if_pos hs]
    exact ⟨_, rfl⟩
  · have hneg : signed r.offset < 0 := by
      rw [signed_eq_sub (by omega) hoffset]
      omega
    rw [if_pos hneg]
    exact ⟨_, rfl⟩

/-! ### Tokens of any origin -/

/-- The numbers of a record fit 64 bits, whatever the record is. -/
theorem decodePayload_ensures :
    Decoder.Ensures decodePayload fun p => p.1 ≤ Word.int64Max ∧ p.2 ≤ Word.int64Max := by
  intro levels j
  refine .bind fun m _ => .bind fun offset hoffset => .bind fun size hsize => .pure ?_
  exact ⟨(Members.required_ensures Decoder.int64_ensures hoffset).2,
    (Members.required_ensures Decoder.int64_ensures hsize).2⟩

/-- A token is empty, or refused, or holds two numbers that fit 64 bits with sign. -/
theorem ofToken_cases (t : String) (defaultSize : Nat) :
    t = "" ∨ (∃ fault, ofToken (some t) defaultSize = .error (.cursor fault)) ∨
      ∃ a b : Int, 0 ≤ a ∧ a ≤ Word.int64Max ∧ 0 < b ∧
        ofToken (some t) defaultSize = .ok ⟨a.toNat, b.toNat⟩ := by
  by_cases ht : t = ""
  · exact .inl ht
  refine .inr ?_
  cases hbytes : Base64.decode t.toList with
  | none =>
    rw [ofToken_some ht, hbytes]
    exact .inl ⟨_, rfl⟩
  | some bytes =>
    cases hnumbers : (parseBytes? bytes).bind (decodePayload maxNesting) with
    | none =>
      rw [ofToken_some ht, hbytes]
      simp only [hnumbers]
      exact .inl ⟨_, rfl⟩
    | some numbers =>
      obtain ⟨a, b⟩ := numbers
      obtain ⟨j, -, hj⟩ := Option.bind_eq_some_iff.1 hnumbers
      have hbound := (decodePayload_ensures maxNesting j (a, b) hj).1
      rw [ofToken_of_numbers ht hbytes hnumbers]
      by_cases ha : a < 0
      · exact .inl ⟨_, if_pos ha⟩
      rw [if_neg ha]
      by_cases hb : b ≤ 0
      · exact .inl ⟨_, if_pos hb⟩
      · exact .inr ⟨a, b, by omega, hbound, by omega, if_neg hb⟩

/-- A request that is understood asks for at least one item, from an offset below `2 ^ 63` on. -/
theorem bounds_of_ofToken {token : Option String} {defaultSize : Nat} {r : PageRequest}
    (h : ofToken token defaultSize = .ok r) : 0 < r.size ∧ r.offset < 2 ^ 63 := by
  have hfirst : 0 < (first defaultSize).size ∧ (first defaultSize).offset < 2 ^ 63 := by
    simp only [first]
    omega
  cases token with
  | none =>
    obtain rfl := Except.ok.inj h
    exact hfirst
  | some t =>
    rcases ofToken_cases t defaultSize with rfl | ⟨fault, hfault⟩ | ⟨a, b, ha, hbound, hb, hok⟩
    · obtain rfl := Except.ok.inj h
      exact hfirst
    · rw [hfault] at h
      cases h
    · rw [hok] at h
      obtain rfl := Except.ok.inj h
      simp only [Word.int64Max] at hbound
      simp only
      omega

/-- **Tokens over all numbers of 64 bits.** The token of a request comes back as the request if the
offset is below `2 ^ 63` and the size is positive and below `2 ^ 63`, and is refused otherwise; so it
never comes back as another request. A token of any origin is refused, or asks for at least one item
from an offset below `2 ^ 63` on. -/
theorem ofToken_exact {r : PageRequest} (hoffset : r.offset < 2 ^ 64) (hsize : r.size < 2 ^ 64)
    (defaultSize : Nat) :
    (r.offset < 2 ^ 63 ∧ 0 < r.size ∧ r.size < 2 ^ 63 →
      ofToken (some r.token) defaultSize = .ok r) ∧
    (¬ (r.offset < 2 ^ 63 ∧ 0 < r.size ∧ r.size < 2 ^ 63) →
      ∃ fault, ofToken (some r.token) defaultSize = .error (.cursor fault)) ∧
    (∀ q, ofToken (some r.token) defaultSize = .ok q → q = r) ∧
    ∀ t, (∃ fault, ofToken (some t) defaultSize = .error (.cursor fault)) ∨
      ∃ q, ofToken (some t) defaultSize = .ok q ∧ 1 ≤ q.size ∧ q.offset < 2 ^ 63 := by
  have hvalid : r.offset < 2 ^ 63 ∧ 0 < r.size ∧ r.size < 2 ^ 63 →
      ofToken (some r.token) defaultSize = .ok r :=
    fun ⟨ho, hpos, hs⟩ => ofToken_token ho hpos hs defaultSize
  have hinvalid : ¬ (r.offset < 2 ^ 63 ∧ 0 < r.size ∧ r.size < 2 ^ 63) →
      ∃ fault, ofToken (some r.token) defaultSize = .error (.cursor fault) :=
    fun h => ofToken_token_refused hoffset hsize h defaultSize
  refine ⟨hvalid, hinvalid, fun q hq => ?_, fun t => ?_⟩
  · by_cases h : r.offset < 2 ^ 63 ∧ 0 < r.size ∧ r.size < 2 ^ 63
    · exact Except.ok.inj (hq.symm.trans (hvalid h))
    · obtain ⟨fault, hfault⟩ := hinvalid h
      cases hq.symm.trans hfault
  · cases ht : ofToken (some t) defaultSize with
    | ok q => exact .inr ⟨q, rfl, bounds_of_ofToken ht⟩
    | error e =>
      rcases ofToken_cases t defaultSize with rfl | hfault | ⟨a, b, -, -, -, hok⟩
      · cases ht
      · exact .inl (ht ▸ hfault)
      · cases ht.symm.trans hok

/-- The greatest request that comes back, the least offset that does not, and a size of which the
sign makes a negative number. -/
theorem ofToken_exact_boundary :
    ofToken (some (token ⟨2 ^ 63 - 1, 2 ^ 63 - 1⟩)) 10 = .ok ⟨2 ^ 63 - 1, 2 ^ 63 - 1⟩ ∧
      (∃ fault, ofToken (some (token ⟨2 ^ 63, 1⟩)) 10 = .error (.cursor fault)) ∧
      ∃ fault, ofToken (some (token ⟨0, 2 ^ 64 - 1⟩)) 10 = .error (.cursor fault) :=
  ⟨(ofToken_exact (r := ⟨2 ^ 63 - 1, 2 ^ 63 - 1⟩) (by decide) (by decide) 10).1 (by decide),
    (ofToken_exact (r := ⟨2 ^ 63, 1⟩) (by decide) (by decide) 10).2.1 (by decide),
    (ofToken_exact (r := ⟨0, 2 ^ 64 - 1⟩) (by decide) (by decide) 10).2.1 (by decide)⟩

end PageRequest

end AssemblyAtlas
