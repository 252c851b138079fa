import Mathlib.Data.List.TakeWhile
import Reporting.Page.Token
import Reporting.Proofs.Digits
import Reporting.Proofs.Except

/-!
# Reading a token back

The text of a token is read as the token it was written for (`PageToken.decode_encode`): the letters
as their bytes, the digits as their number and the two members by their names. All of its letters
are safe in addresses (`Base64.isSafe_of_mem_encode`).
-/

namespace Reporting

namespace Base64

theorem value?_letter : ∀ v < 64, value? (letter v) = some v := by decide

theorem decode?_encode : ∀ bytes : List UInt8, decode? (encode bytes) = some bytes
  | a :: b :: c :: rest => by
    have ha := a.toNat_lt
    have hb := b.toNat_lt
    have hc := c.toNat_lt
    rw [encode]
    generalize hn : (a.toNat * 256 + b.toNat) * 256 + c.toNat = n
    have hword : ((n / 262144 * 64 + n / 4096 % 64) * 64 + n / 64 % 64) * 64 + n % 64 = n := by
      omega
    have ha' : n / 65536 = a.toNat := by omega
    have hb' : n / 256 % 256 = b.toNat := by omega
    have hc' : n % 256 = c.toNat := by omega
    simp only [decode?, value?_letter (n / 262144) (by omega),
      value?_letter (n / 4096 % 64) (by omega), value?_letter (n / 64 % 64) (by omega),
      value?_letter (n % 64) (by omega), decode?_encode rest, Option.bind_eq_bind,
      Option.bind_some, Option.pure_def, hword, ha', hb', hc', UInt8.ofNat_toNat]
  | [a, b] => by
    have ha := a.toNat_lt
    have hb := b.toNat_lt
    rw [encode]
    generalize hn : a.toNat * 256 + b.toNat = n
    have hword : (n / 1024 * 64 + n / 16 % 64) * 64 + n % 16 * 4 = n * 4 := by omega
    have ha' : n * 4 / 1024 = a.toNat := by omega
    have hb' : n * 4 / 4 % 256 = b.toNat := by omega
    have hspare : n * 4 % 4 = 0 := by omega
    simp only [decode?, value?_letter (n / 1024) (by omega),
      value?_letter (n / 16 % 64) (by omega), value?_letter (n % 16 * 4) (by omega),
      Option.bind_eq_bind, Option.bind_some, hword, ha', hb', hspare, if_true, UInt8.ofNat_toNat]
  | [a] => by
    have ha := a.toNat_lt
    have hword : a.toNat / 4 * 64 + a.toNat % 4 * 16 = a.toNat * 16 := by omega
    have ha' : a.toNat * 16 / 16 = a.toNat := by omega
    have hspare : a.toNat * 16 % 16 = 0 := by omega
    simp only [encode, decode?, value?_letter (a.toNat / 4) (by omega),
      value?_letter (a.toNat % 4 * 16) (by omega), Option.bind_eq_bind, Option.bind_some, hword,
      ha', hspare, if_true, UInt8.ofNat_toNat]
  | [] => rfl

/-- The character needs no escaping in an address. Padding does. -/
def isSafe (c : Char) : Bool := c.isAlphanum || c = '-' || c = '_'

theorem isSafe_letter : ∀ v < 64, isSafe (letter v) := by decide

theorem isSafe_of_mem_encode {c : Char} : ∀ {bytes : List UInt8}, c ∈ encode bytes → isSafe c
  | a :: b :: d :: rest, h => by
    have ha := a.toNat_lt
    have hb := b.toNat_lt
    have hd := d.toNat_lt
    rw [encode] at h
    simp only [List.mem_cons] at h
    rcases h with rfl | rfl | rfl | rfl | h
    · exact isSafe_letter _ (by omega)
    · exact isSafe_letter _ (by omega)
    · exact isSafe_letter _ (by omega)
    · exact isSafe_letter _ (by omega)
    · exact isSafe_of_mem_encode h
  | [a, b], h => by
    have ha := a.toNat_lt
    have hb := b.toNat_lt
    rw [encode] at h
    simp only [List.mem_cons, List.not_mem_nil, or_false] at h
    rcases h with rfl | rfl | rfl
    · exact isSafe_letter _ (by omega)
    · exact isSafe_letter _ (by omega)
    · exact isSafe_letter _ (by omega)
  | [a], h => by
    have ha := a.toNat_lt
    rw [encode] at h
    simp only [List.mem_cons, List.not_mem_nil, or_false] at h
    rcases h with rfl | rfl
    · exact isSafe_letter _ (by omega)
    · exact isSafe_letter _ (by omega)
  | [], h => nomatch h

end Base64

namespace Json

open Text (digits isDigit digitValue)

variable {cs : List Char} {c d : Char} {n : Nat}

/-- A number does not go on with the character. -/
def endsNumber (c : Char) : Bool := !isDigit c && c ≠ '.' && c ≠ 'e' && c ≠ 'E'

theorem le_foldl_digitValue : ∀ (cs : List Char) (n : Nat),
    n ≤ cs.foldl (fun n c => n * 10 + digitValue c) n
  | [], _ => le_rfl
  | c :: cs, n => by
    have := le_foldl_digitValue cs (n * 10 + digitValue c)
    rw [List.foldl_cons]
    omega

/-- Digits of a number that fits are all taken. -/
theorem takeFitting_eq : ∀ (cs : List Char) (n : Nat),
    cs.foldl (fun n c => n * 10 + digitValue c) n < 2 ^ 64 →
      takeFitting n cs = (cs.foldl (fun n c => n * 10 + digitValue c) n, cs.length)
  | [], _, _ => rfl
  | c :: cs, n, h => by
    rw [List.foldl_cons] at h
    have hnext := (le_foldl_digitValue cs (n * 10 + digitValue c)).trans_lt h
    rw [takeFitting, if_pos hnext, takeFitting_eq cs _ h]
    rfl

theorem takeFitting_digits (hn : n < 2 ^ 64) :
    takeFitting 0 (digits n) = (n, (digits n).length) := by
  have hvalue : (digits n).foldl (fun n c => n * 10 + digitValue c) 0 = n :=
    Text.digitsValue_digits n
  rw [takeFitting_eq _ _ (by rwa [hvalue]), hvalue]

theorem wholePart?_digits (hc : isDigit c = false) (n : Nat) (cs : List Char) :
    wholePart? (digits n ++ c :: cs) = some (digits n, c :: cs) := by
  rcases Nat.eq_zero_or_pos n with rfl | hn
  · change (if isDigit c then _ else _) = _
    rw [hc]
    rfl
  obtain ⟨d, ds, hds, hd⟩ := Text.exists_digits hn
  have hrun : (digits n ++ c :: cs).takeWhile isDigit = digits n := by
    rw [List.takeWhile_append_of_pos (Text.isDigit_of_mem_digits n),
      List.takeWhile_cons_of_neg (by simp [hc]), List.append_nil]
  rw [hds, List.cons_append] at hrun ⊢
  rw [wholePart?, hrun]
  · exact congrArg (fun rest => some (_, rest)) (List.drop_left ..)
  · rintro c r h
    exact hd (List.cons.inj h).1
  · intro h
    exact hd (List.cons.inj h).1

theorem exists_digits_cons (n : Nat) : ∃ d ds, digits n = d :: ds ∧ isDigit d = true := by
  obtain ⟨d, ds, hds⟩ := List.exists_cons_of_ne_nil (l := digits n) Nat.toDigits_ne_nil
  exact ⟨d, ds, hds, Text.isDigit_of_mem_digits n d (hds ▸ List.mem_cons_self)⟩

theorem ne_of_isDigit (hd : isDigit d = true) (hc : isDigit c = false) : d ≠ c :=
  fun h => Bool.false_ne_true (hc.symm.trans (h ▸ hd))

theorem number?_digits (hn : n < 2 ^ 64) (hc : endsNumber c = true) (cs : List Char) :
    number? (digits n ++ c :: cs) = some (.integer n ⟨by omega, by omega⟩, c :: cs) := by
  obtain ⟨⟨⟨hdigit, hpoint⟩, he⟩, hE⟩ : ((isDigit c = false ∧ c ≠ '.') ∧ c ≠ 'e') ∧ c ≠ 'E' := by
    simpa [endsNumber] using hc
  have hwhole := wholePart?_digits hdigit n cs
  have hfraction : fractionPart? (c :: cs) = some (none, c :: cs) := by
    rw [fractionPart?]
    rintro r h
    exact hpoint (List.cons.inj h).1
  have hexp : exponentPart? (c :: cs) = some (none, c :: cs) := by
    simp only [exponentPart?, if_neg (not_or.2 ⟨he, hE⟩)]
  obtain ⟨d, ds, hds, hd⟩ := exists_digits_cons n
  have hminus : d ≠ '-' := ne_of_isDigit hd (by decide)
  have hfit := takeFitting_digits hn
  rw [hds] at hwhole hfit ⊢
  rw [List.cons_append] at hwhole ⊢
  have hnat : JsonNumber.ofInt? (n : Int) = some (.integer n ⟨by omega, by omega⟩) :=
    dif_pos ⟨by omega, by omega⟩
  unfold number?
  split
  rename_i negative rest hsign
  split at hsign
  · rename_i r h
    exact absurd (List.cons.inj h).1 hminus
  · cases hsign
    rw [hwhole, Option.bind_eq_bind, Option.bind_some]
    dsimp only
    rw [hfraction, Option.bind_eq_bind, Option.bind_some]
    dsimp only
    rw [hexp, Option.bind_eq_bind, Option.bind_some]
    dsimp only
    rw [hfit]
    dsimp only
    rw [if_pos (Nat.sub_self _), if_neg (fun h => Bool.false_ne_true h.1),
      if_neg Bool.false_ne_true, hnat]
    rfl

theorem ofNat_eq (hn : n < 2 ^ 64) :
    Json.ofNat n = .number (.integer n ⟨by omega, by omega⟩) := by
  rw [Json.ofNat, Json.ofInt, JsonNumber.ofInt?, dif_pos]
  rfl

theorem print_ofNat (hn : n < 2 ^ 64) : print (.ofNat n) = digits n := by
  rw [ofNat_eq hn, print, JsonNumber.toText, if_neg (by omega), String.toList_ofList]
  rfl

theorem value?_digits (hn : n < 2 ^ 64) (hc : endsNumber c = true) (fuel depth : Nat)
    (cs : List Char) :
    value? (fuel + 1) depth (digits n ++ c :: cs) = some (.ofNat n, c :: cs) := by
  have hnumber := number?_digits hn hc cs
  obtain ⟨d, ds, hds, hd⟩ := exists_digits_cons n
  rw [hds, List.cons_append] at hnumber ⊢
  have hblank : isBlank d = false := by
    simp only [isBlank, decide_eq_false_iff_not, Bool.or_eq_false_iff]
    exact ⟨⟨⟨ne_of_isDigit hd (by decide), ne_of_isDigit hd (by decide)⟩,
      ne_of_isDigit hd (by decide)⟩, ne_of_isDigit hd (by decide)⟩
  have hskip : skipBlanks (d :: (ds ++ c :: cs)) = d :: (ds ++ c :: cs) :=
    List.dropWhile_cons_of_neg (by simp [hblank])
  rw [value?, hskip]
  split
  all_goals try
    rename_i h
    exact absurd (List.cons.inj h).1 (ne_of_isDigit hd (by decide))
  rw [hnumber, ofNat_eq hn]
  rfl

/-- A member that holds a number that fits. -/
theorem chosenMembers?_digits {names : List String} {name : String} {body : List Char}
    (hname : names.contains name = true)
    (hbody : stringBody body = some (name.toList, ':' :: (digits n ++ c :: cs)))
    (hn : n < 2 ^ 64) (hc : endsNumber c = true) (fuel : Nat) :
    chosenMembers? names (fuel + 2) ('"' :: body) = match skipBlanks (c :: cs) with
      | ',' :: cs => do
        let (rest, cs) ← chosenMembers? names (fuel + 1) cs
        return ((name, .ofNat n) :: rest, cs)
      | '\x7d' :: cs => some ([(name, .ofNat n)], cs)
      | _ => none := by
  have hquote : skipBlanks ('"' :: body) = '"' :: body := rfl
  have hcolon (cs : List Char) : skipBlanks (':' :: cs) = ':' :: cs := rfl
  rw [chosenMembers?]
  simp only [hquote, hbody, Option.bind_eq_bind, Option.bind_some, hcolon, String.ofList_toList,
    hname, if_true, value?_digits hn hc fuel 126 cs, Option.map_some]
  rfl

end Json

namespace PageToken

theorem stringBody_offset (cs : List Char) :
    Json.stringBody ("offset\"".toList ++ cs) = some ("offset".toList, cs) := by
  rfl

theorem stringBody_hash (cs : List Char) :
    Json.stringBody ("query_hash\"".toList ++ cs) = some ("query_hash".toList, cs) := by
  rfl

theorem toList_toText (t : PageToken) : t.toJson.toText.toList
    = '\x7b' :: '"' :: ("offset\"".toList ++ ':' :: (Text.digits t.offset.toNat
      ++ ',' :: '"' :: ("query_hash\"".toList ++ ':' :: (Text.digits t.requestHash.toNat
        ++ ['\x7d'])))) := by
  rw [Json.toText, String.toList_ofList, toJson, Json.print, Json.printMembers, Json.printMembers,
    Json.print_ofNat t.offset.toNat_lt, Json.print_ofNat t.requestHash.toNat_lt]
  have hoffset : Json.quoted "offset" = '"' :: "offset\"".toList := by rfl
  have hhash : Json.quoted "query_hash" = '"' :: "query_hash\"".toList := by rfl
  rw [hoffset, hhash]
  · simp
  · simp

theorem chosenMembers?_toText (t : PageToken) (fuel : Nat) :
    Json.chosenMembers? fieldNames (fuel + 3) ('"' :: ("offset\"".toList ++ ':' ::
      (Text.digits t.offset.toNat ++ ',' :: '"' :: ("query_hash\"".toList ++ ':' ::
        (Text.digits t.requestHash.toNat ++ ['\x7d'])))))
      = some ([("offset", .ofNat t.offset.toNat), ("query_hash", .ofNat t.requestHash.toNat)],
        []) := by
  have hhash : Json.chosenMembers? fieldNames (fuel + 2)
      ('"' :: ("query_hash\"".toList ++ ':' :: (Text.digits t.requestHash.toNat ++ ['\x7d'])))
      = some ([("query_hash", .ofNat t.requestHash.toNat)], []) :=
    Json.chosenMembers?_digits (by decide) (stringBody_hash _) t.requestHash.toNat_lt (by decide)
      fuel
  refine (Json.chosenMembers?_digits (by decide) (stringBody_offset _) t.offset.toNat_lt (by decide)
    (fuel + 1)).trans ?_
  change (do
    let (rest, cs) ← Json.chosenMembers? fieldNames (fuel + 2) _
    return (("offset", Json.ofNat t.offset.toNat) :: rest, cs)) = _
  rw [hhash]
  rfl

theorem chosen?_toText (t : PageToken) :
    Json.chosen? fieldNames t.toJson.toText = some t.toJson := by
  rw [Json.chosen?, toList_toText]
  generalize hbody : "offset\"".toList ++ ':' :: (Text.digits t.offset.toNat ++ ',' :: '"' ::
    ("query_hash\"".toList ++ ':' :: (Text.digits t.requestHash.toNat ++ ['\x7d']))) = body
  have hmembers := chosenMembers?_toText t (2 * body.length + 1)
  rw [hbody] at hmembers
  have hfuel : 2 * ('"' :: body).length + 2 = 2 * body.length + 1 + 3 := by
    rw [List.length_cons]
    omega
  change (do
    let (members, rest) ← Json.chosenMembers? fieldNames (2 * ('"' :: body).length + 2)
      ('"' :: body)
    if (Json.skipBlanks rest).isEmpty then some (Json.object members) else none) = _
  rw [hfuel, hmembers]
  rfl

theorem uint64?_ofNat (n : UInt64) : Wire.uint64? (.ofNat n.toNat) = some n := by
  have hn := n.toNat_lt
  rw [Json.ofNat_eq hn, Wire.uint64?, Wire.intBetween?, if_pos (by omega), Option.map_some,
    Int.toNat_natCast, UInt64.ofNat_toNat]

theorem ofJson?_object {offset hash : Json} {t : PageToken}
    (hoffset : Wire.uint64? offset = some t.offset)
    (hhash : Wire.uint64? hash = some t.requestHash) :
    ofJson? (.object [("offset", offset), ("query_hash", hash)]) = some t := by
  have hfields : Wire.fields? fieldNames (.object [("offset", offset), ("query_hash", hash)])
      = some [("offset", offset), ("query_hash", hash)] := rfl
  rw [ofJson?, hfields]
  change (do return (⟨← Wire.uint64? offset, ← Wire.uint64? hash⟩ : PageToken)) = _
  rw [hoffset, hhash]
  rfl

theorem ofJson?_toJson (t : PageToken) : ofJson? t.toJson = some t :=
  ofJson?_object (uint64?_ofNat t.offset) (uint64?_ofNat t.requestHash)

theorem toList_loop (b : ByteArray) : ∀ (k i : Nat) (taken : List UInt8), i + k = b.size →
    ByteArray.toList.loop b i taken = taken.reverse ++ b.data.toList.drop i
  | 0, i, taken, h => by
    have hdrop : b.data.toList.drop i = [] := List.drop_eq_nil_of_le (by simpa using h.ge)
    rw [ByteArray.toList.loop, if_neg (by omega), hdrop, List.append_nil]
  | k + 1, i, taken, h => by
    have hi : i < b.data.toList.length := by
      have : b.data.toList.length = b.size := rfl
      omega
    have hget : b.get! i = b.data.toList[i] := getElem!_pos b.data i hi
    rw [ByteArray.toList.loop, if_pos (by omega), toList_loop b k (i + 1) _ (by omega),
      List.reverse_cons, List.append_assoc, hget, List.drop_eq_getElem_cons hi]
    rfl

theorem fromUTF8?_toUTF8 (s : String) : String.fromUTF8? ⟨s.toUTF8.toList.toArray⟩ = some s := by
  have hbytes : (⟨s.toUTF8.toList.toArray⟩ : ByteArray) = s.toUTF8 := by
    rw [ByteArray.toList, toList_loop s.toUTF8 s.toUTF8.size 0 [] (Nat.zero_add _)]
    rfl
  rw [hbytes]
  exact dif_pos s.isValidUTF8

theorem decode_encode (t : PageToken) : decode t.encode = .ok t := by
  have hbytes : Base64.decode? t.encode.toList = some t.toJson.toText.toUTF8.toList := by
    rw [encode, String.toList_ofList, Base64.decode?_encode]
  refine bind_eq_ok.2 ⟨_, by rw [hbytes]; rfl, bind_eq_ok.2 ⟨_, by rw [fromUTF8?_toUTF8]; rfl, ?_⟩⟩
  rw [chosen?_toText, Option.bind_some, ofJson?_toJson]
  rfl

/-- Every token is read back from its text, which needs no escaping in an address, and no two tokens
share a text. -/
theorem encode_safe_faithful :
    (∀ offset hash : UInt64, decode (encode ⟨offset, hash⟩) = .ok ⟨offset, hash⟩
        ∧ ∀ c ∈ (encode ⟨offset, hash⟩).toList, Base64.isSafe c)
      ∧ Function.Injective encode := by
  refine ⟨fun offset hash => ⟨decode_encode _, fun c hc => ?_⟩, fun t u h => ?_⟩
  · rw [encode, String.toList_ofList] at hc
    exact Base64.isSafe_of_mem_encode hc
  · have hread : decode t.encode = decode u.encode := congrArg decode h
    rw [decode_encode, decode_encode] at hread
    exact Except.ok.inj hread

end PageToken

end Reporting
