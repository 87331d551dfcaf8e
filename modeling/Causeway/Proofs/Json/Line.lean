import Causeway.Proofs.Json.Texts
import Causeway.Sprite.Player

/-!
# A JSON text is one line

Control characters are escaped in strings and stand nowhere else (`isGraphic_of_mem_chars`), and in UTF-8 the
byte of a newline is nothing but a newline (`newline_mem_bytesOf_iff`). So lines of JSON texts are told
apart by their bytes.
-/

namespace Causeway

open Number

/-! ### Bytes of texts -/

theorem loop_toList (bs : ByteArray) (i : Nat) (r : List UInt8) :
    ByteArray.toList.loop bs i r = r.reverse ++ bs.data.toList.drop i := by
  generalize hleft : bs.size - i = left
  have hsize : bs.data.toList.length = bs.size := rfl
  induction left generalizing i r with
  | zero =>
    rw [ByteArray.toList.loop, if_neg (by omega), List.drop_of_length_le (by omega), List.append_nil]
  | succ left ih =>
    have hlt : i < bs.data.toList.length := by omega
    have hget : bs.get! i = bs.data.toList[i] := getElem!_pos bs.data i (by simpa using hlt)
    rw [ByteArray.toList.loop, if_pos (by omega), ih _ _ (by omega), List.drop_eq_getElem_cons hlt,
      hget]
    simp

theorem bytesOf_eq (s : String) : bytesOf s = s.toList.flatMap String.utf8EncodeChar := by
  have hbytes : s.toUTF8 = (s.toList.flatMap String.utf8EncodeChar).toByteArray :=
    String.utf8Encode_toList.symm
  rw [bytesOf, hbytes, ByteArray.toList, loop_toList, List.toList_data_toByteArray]
  rfl

theorem fromUTF8?_bytesOf (s : String) : String.fromUTF8? (bytesOf s).toByteArray = some s := by
  have hbytes : (bytesOf s).toByteArray = s.toByteArray := by
    rw [bytesOf_eq]
    exact String.utf8Encode_toList
  rw [hbytes, String.fromUTF8?, dif_pos s.isValidUTF8]
  rfl

def newline : UInt8 := 10

/-- All bytes of a character of more than one have their first bit set. -/
theorem newline_mem_utf8EncodeChar_iff (c : Char) :
    newline ∈ String.utf8EncodeChar c ↔ c = '\n' := by
  have hbyte : ∀ n < 256, newline = UInt8.ofNat n → n = 10 := by
    intro n hn heq
    have hnat := congrArg UInt8.toNat heq
    rw [UInt8.toNat_ofNat_of_lt' (show n < UInt8.size from hn)] at hnat
    exact hnat.symm
  have hnewline : c.val.toNat = 10 ↔ c = '\n' := Char.toNat_inj (d := '\n')
  rw [← hnewline]
  unfold String.utf8EncodeChar
  dsimp only
  split
  · rw [List.mem_singleton]
    exact ⟨hbyte _ (by omega), fun h => congrArg UInt8.ofNat h.symm⟩
  · refine iff_of_false (fun hmem => ?_) (by omega)
    split at hmem
    · simp only [List.mem_cons, List.not_mem_nil, or_false] at hmem
      rcases hmem with h | h <;> have := hbyte _ (by omega) h <;> omega
    · split at hmem
      · simp only [List.mem_cons, List.not_mem_nil, or_false] at hmem
        rcases hmem with h | h | h <;> have := hbyte _ (by omega) h <;> omega
      · simp only [List.mem_cons, List.not_mem_nil, or_false] at hmem
        rcases hmem with h | h | h | h <;> have := hbyte _ (by omega) h <;> omega

theorem newline_mem_bytesOf_iff (s : String) : newline ∈ bytesOf s ↔ '\n' ∈ s.toList := by
  rw [bytesOf_eq, List.mem_flatMap]
  simp only [newline_mem_utf8EncodeChar_iff, exists_eq_right]

namespace Json

/-! ### Characters of texts -/

/-- Not a control character. -/
def IsGraphic (c : Char) : Prop := 32 ≤ c.toNat

instance (c : Char) : Decidable (IsGraphic c) := inferInstanceAs (Decidable (32 ≤ c.toNat))

/-- For texts that are spelled out. -/
theorem isGraphic_of_all {s : List Char} (h : s.all (decide <| IsGraphic ·) = true) :
    ∀ c ∈ s, IsGraphic c := fun c hc => of_decide_eq_true (List.all_eq_true.mp h c hc)

theorem isGraphic_hexDigit : ∀ n < 16, IsGraphic (hexDigit n) := by decide

theorem isGraphic_of_mem_escape (c : Char) : ∀ d ∈ escape c, IsGraphic d := by
  obtain ⟨d, hd, hescape⟩ | ⟨hcontrol, -, hescape⟩ | ⟨-, -, hcontrol, hescape⟩ := escape_cases c <;>
    rw [hescape]
  · exact List.forall_mem_cons.mpr ⟨by decide, List.forall_mem_singleton.mpr (simpleEscape_cases hd).2⟩
  · have hhigh := isGraphic_hexDigit (c.toNat / 16) (by omega)
    have hlow := isGraphic_hexDigit (c.toNat % 16) (by omega)
    simp only [List.forall_mem_cons]
    exact ⟨by decide, by decide, by decide, by decide, hhigh, hlow, by simp⟩
  · exact List.forall_mem_singleton.mpr (Nat.le_of_not_lt hcontrol)

theorem isGraphic_of_mem_quote (s : String) : ∀ c ∈ quote s, IsGraphic c := by
  have hescaped : ∀ c ∈ s.toList.flatMap escape, IsGraphic c := by
    intro c hc
    obtain ⟨d, -, hd⟩ := List.mem_flatMap.mp hc
    exact isGraphic_of_mem_escape d c hd
  exact List.forall_mem_cons.mpr
    ⟨by decide, List.forall_mem_append.mpr ⟨hescaped, isGraphic_of_all (by decide)⟩⟩

theorem isGraphic_of_isDigit {c : Char} (h : isDigit c = true) : IsGraphic c :=
  Nat.le_trans (by decide) (bounds_of_isDigit h).1

namespace Numeral

theorem isGraphic_of_mem_fractionChars {ds : List Char} (h : ∀ c ∈ ds, isDigit c = true) :
    ∀ c ∈ fractionChars ds, IsGraphic c := by
  unfold fractionChars
  split
  · simp
  · exact List.forall_mem_cons.mpr ⟨by decide, fun c hc => isGraphic_of_isDigit (h c hc)⟩

theorem isGraphic_of_mem_exponentChars {e : Option (Bool × List Char)}
    (h : ∀ x ∈ e, x.2 ≠ [] ∧ ∀ c ∈ x.2, isDigit c = true) :
    ∀ c ∈ exponentChars e, IsGraphic c := by
  cases e with
  | none => simp [exponentChars]
  | some x =>
    have hdigits := (h x rfl).2
    have hsign : IsGraphic (if x.1 = true then '-' else '+') := by split <;> decide
    exact List.forall_mem_cons.mpr
      ⟨by decide, List.forall_mem_cons.mpr ⟨hsign, fun c hc => isGraphic_of_isDigit (hdigits c hc)⟩⟩

theorem isGraphic_of_mem_chars (n : Numeral) : ∀ c ∈ n.chars, IsGraphic c := by
  have hunsigned : ∀ c ∈ n.unsigned, IsGraphic c := by
    simp only [unsigned, List.forall_mem_append]
    exact ⟨fun c hc => isGraphic_of_isDigit (n.whole_digits c hc),
      isGraphic_of_mem_fractionChars n.fraction_digits,
      isGraphic_of_mem_exponentChars n.exponent_digits⟩
  unfold chars
  split
  · exact List.forall_mem_cons.mpr ⟨by decide, hunsigned⟩
  · exact hunsigned

end Numeral

theorem isGraphic_of_mem_real (d : Double) : ∀ c ∈ d.jsonText.toList, IsGraphic c := by
  by_cases hfinite : d.isFinite = true
  · obtain ⟨n, hchars, -⟩ := exists_numeral_real hfinite
    rw [← hchars]
    exact n.isGraphic_of_mem_chars
  · unfold Double.jsonText
    rw [String.toList_ofList]
    unfold Double.isFinite at hfinite
    cases hview : d.view with
    | nan negative => exact isGraphic_of_all (s := "NaN".toList) (by decide)
    | infinite negative => cases negative <;> exact isGraphic_of_all (by decide)
    | finite negative v =>
      rw [hview] at hfinite
      exact absurd rfl hfinite

mutual

/-- No control character stands in a compact text. -/
theorem isGraphic_of_mem_chars (j : Json) : ∀ c ∈ j.chars, IsGraphic c := by
  cases j with
  | null => exact isGraphic_of_all (by decide)
  | bool b => cases b <;> exact isGraphic_of_all (by decide)
  | integer i =>
    have hchars : (integer i).chars = (Numeral.ofInteger i).chars :=
      (Numeral.chars_ofInteger i).symm
    rw [hchars]
    exact Numeral.isGraphic_of_mem_chars _
  | real d => exact isGraphic_of_mem_real d
  | string s => exact isGraphic_of_mem_quote s
  | array items => exact List.forall_mem_cons.mpr ⟨by decide, isGraphic_of_mem_itemChars items⟩
  | object members =>
    exact List.forall_mem_cons.mpr ⟨by decide, isGraphic_of_mem_memberChars members⟩

theorem isGraphic_of_mem_itemChars (items : List Json) : ∀ c ∈ itemChars items, IsGraphic c := by
  match items with
  | [] => exact isGraphic_of_all (by decide)
  | [x] => exact List.forall_mem_append.mpr ⟨isGraphic_of_mem_chars x, isGraphic_of_all (by decide)⟩
  | x :: y :: r =>
    exact List.forall_mem_append.mpr ⟨isGraphic_of_mem_chars x,
      List.forall_mem_cons.mpr ⟨by decide, isGraphic_of_mem_itemChars (y :: r)⟩⟩

theorem isGraphic_of_mem_memberChars (members : List (String × Json)) :
    ∀ c ∈ memberChars members, IsGraphic c := by
  match members with
  | [] => exact isGraphic_of_all (by decide)
  | [(n, x)] =>
    simp only [memberChars, List.forall_mem_append, List.forall_mem_cons]
    exact ⟨⟨isGraphic_of_mem_quote n, by decide, isGraphic_of_mem_chars x⟩, by decide,
      fun _ hc => absurd hc List.not_mem_nil⟩
  | (n, x) :: e :: r =>
    simp only [memberChars, List.forall_mem_append, List.forall_mem_cons]
    exact ⟨⟨isGraphic_of_mem_quote n, by decide, isGraphic_of_mem_chars x⟩, by decide,
      isGraphic_of_mem_memberChars (e :: r)⟩

end

/-- A compact text has no byte of a newline. -/
theorem newline_notMem_bytesOf_text (j : Json) : newline ∉ bytesOf j.text := by
  rw [newline_mem_bytesOf_iff, text, String.toList_ofList]
  intro hmem
  exact absurd (isGraphic_of_mem_chars j _ hmem) (by decide)

end Json

end Causeway
