import LabelPress.Proofs.Base64Reader
import LabelPress.Proofs.ColumnMaps
import LabelPress.Proofs.RowData

/-!
# Data in addresses

An address is cut at its first comma. What stands before it says whether the rest is in base 64;
if it is not, the rest is taken as it is, with any further comma.

* `splitAt?_append`, `isSome_dropTextEnd?_iff`: where a text is cut and what it ends with.
* `utf8Bytes_eq_encode_iff`: the text of some bytes, as the bytes of that text.
* `readsDataUrl`: **a payload in base 64 is read exactly if it spells the bytes**, and any other
  payload as its bytes.
-/

namespace LabelPress

open LabelPress.Text

/-! ## Cutting -/

section Cutting

variable {sep : Char} {s before after stop : List Char}

theorem splitAt?_eq_none_iff : splitAt? sep s = none ↔ sep ∉ s := by
  unfold splitAt?
  split
  · rename_i hnil
    rw [List.dropWhile_eq_nil_iff] at hnil
    exact iff_of_true rfl fun hmem => bne_iff_ne.1 (hnil sep hmem) rfl
  · rename_i c rest hrest
    have hmem : c ∈ s.dropWhile (· != sep) := hrest ▸ List.mem_cons_self
    have hc : c = sep := by
      have hhead := List.head_dropWhile_not (· != sep) (List.ne_nil_of_mem hmem)
      simpa [hrest] using hhead
    exact iff_of_false nofun fun hnot => hnot (hc ▸ (List.dropWhile_suffix _).subset hmem)

theorem splitAt?_append (hbefore : sep ∉ before) :
    splitAt? sep (before ++ sep :: after) = some (before, after) := by
  have hall : ∀ c ∈ before, (c != sep) = true :=
    fun c hc => bne_iff_ne.2 fun heq => hbefore (heq ▸ hc)
  rw [splitAt?, List.dropWhile_append_of_pos hall, List.takeWhile_append_of_pos hall]
  simp

theorem isSome_dropTextEnd?_iff : (dropTextEnd? stop s).isSome = true ↔ stop <:+ s := by
  rw [dropTextEnd?, Option.isSome_map, Option.isSome_iff_exists]
  simp only [dropText?_eq_some_iff]
  rw [← List.reverse_prefix]
  exact ⟨fun ⟨rest, h⟩ => ⟨rest, h.symm⟩, fun ⟨rest, h⟩ => ⟨rest, h.symm⟩⟩

/-- A text without blanks has none at its ends. -/
theorem trimChars_eq_self (h : ∀ c ∈ s, isBlank c = false) : trimChars s = s := by
  have hkeep : ∀ {s : List Char}, (∀ c ∈ s, isBlank c = false) →
      s.dropWhile isBlank = s := by
    intro s hs
    cases s with
    | nil => rfl
    | cons c s => rw [List.dropWhile_cons, hs c List.mem_cons_self, if_neg Bool.false_ne_true]
  rw [trimChars, hkeep h, hkeep fun c hc => h c (List.mem_reverse.1 hc), List.reverse_reverse]

end Cutting

/-! ## Bytes of a text -/

section Bytes

variable {bytes : List UInt8} {s : List Char}

theorem utf8Bytes_inj {s t : String} (h : utf8Bytes s = utf8Bytes t) : s = t :=
  le_antisymm (utf8Bytes_le_iff.1 (h ▸ List.le_refl _))
    (utf8Bytes_le_iff.1 (h ▸ List.le_refl _))

/-- A byte below 128 is the whole encoding of its character. -/
theorem utf8Bytes_chars (h : ∀ b ∈ bytes, b.toNat < 128) :
    utf8Bytes (String.ofList (Base64.chars bytes)) = bytes := by
  have hbyte : ∀ b ∈ bytes, String.utf8EncodeChar (Char.ofNat b.toNat) = [b] := fun b hb =>
    Base64.forall_uint8 (p := fun b => String.utf8EncodeChar (Char.ofNat b.toNat) = [b]) 128
      (by decide) (h b hb)
  rw [utf8Bytes_eq, String.toList_ofList, Base64.chars, List.flatMap_map, List.flatMap_congr hbyte]
  exact List.flatMap_pure_eq_map _ _ |>.trans (List.map_id _)

/-- Each character of a text in base 64 is a digit or padding. -/
theorem forall_mem_encode {p : UInt8 → Prop} (hdigit : ∀ n < 64, p (Base64.digit (.ofNat n)))
    (hpadding : p Base64.padding) : ∀ b ∈ Base64.encode bytes, p b := by
  intro b hb
  rw [Base64.encode_eq, List.mem_append, List.mem_map] at hb
  rcases hb with ⟨n, hn, rfl⟩ | hb
  · exact Base64.forall_uint8 (p := fun n => p (Base64.digit n)) 64 hdigit
      (Base64.lt_of_mem_sextets bytes n hn)
  · rwa [List.eq_of_mem_replicate hb]

theorem lt_of_mem_encode : ∀ b ∈ Base64.encode bytes, b.toNat < 128 :=
  forall_mem_encode (by decide) (by decide)

theorem trimChars_encode : trimChars (Base64.chars (Base64.encode bytes)) =
    Base64.chars (Base64.encode bytes) :=
  trimChars_eq_self (List.forall_mem_map.2 (forall_mem_encode (by decide) (by decide)))

/-- The text of some bytes, as the bytes of that text. -/
theorem utf8Bytes_eq_encode_iff :
    utf8Bytes (String.ofList s) = Base64.encode bytes ↔ Base64.Spells bytes s := by
  rw [Base64.spells_iff]
  constructor
  · intro h
    rw [← utf8Bytes_chars lt_of_mem_encode] at h
    exact String.ofList_injective (utf8Bytes_inj h)
  · rintro rfl
    exact utf8Bytes_chars lt_of_mem_encode

end Bytes

/-! ## Addresses -/

section Addresses

variable {src : String} {header payload : List Char} {bytes : List UInt8}

/-- The payload in base 64 is decoded without the blanks around it. -/
theorem decodeDataUrl_of_mark (hsrc : src.toList = header ++ ',' :: payload)
    (hheader : ',' ∉ header) (hmark : base64Mark <:+ header) : decodeDataUrl src =
      (Base64.decode (utf8Bytes (String.ofList (trimChars payload)))).mapError .base64 := by
  rw [decodeDataUrl, hsrc, splitAt?_append hheader]
  dsimp only
  rw [if_pos (isSome_dropTextEnd?_iff.2 hmark)]
  cases Base64.decode (utf8Bytes (String.ofList (trimChars payload))) <;> rfl

theorem decodeDataUrl_of_not_mark (hsrc : src.toList = header ++ ',' :: payload)
    (hheader : ',' ∉ header) (hmark : ¬ base64Mark <:+ header) :
    decodeDataUrl src = .ok (utf8Bytes (String.ofList payload)) := by
  rw [decodeDataUrl, hsrc, splitAt?_append hheader]
  exact if_neg fun h => hmark (isSome_dropTextEnd?_iff.1 h)

theorem decodeDataUrl_eq_ok_iff (hsrc : src.toList = header ++ ',' :: payload)
    (hheader : ',' ∉ header) (hmark : base64Mark <:+ header) :
    decodeDataUrl src = .ok bytes ↔ Base64.Spells bytes (trimChars payload) := by
  rw [decodeDataUrl_of_mark hsrc hheader hmark, ← utf8Bytes_eq_encode_iff,
    ← Base64.decode_eq_ok_iff]
  cases Base64.decode (utf8Bytes (String.ofList (trimChars payload))) <;> simp [Except.mapError]

/-- What is read from an address. -/
structure ReadsDataUrl (src : String) : Prop where
  /-- Without a comma there is no payload. -/
  noComma : ',' ∉ src.toList → decodeDataUrl src = .error .noPayload
  /-- A payload in base 64 stands for the bytes that it spells, with blanks around it or without. -/
  base64 : ∀ header payload, src.toList = header ++ ',' :: payload → ',' ∉ header →
    ";base64".toList <:+ header → ∀ bytes,
      decodeDataUrl src = .ok bytes ↔ Base64.Spells bytes (trimChars payload)
  /-- If it spells none, reading it fails. -/
  fault : ∀ header payload, src.toList = header ++ ',' :: payload → ',' ∉ header →
    ";base64".toList <:+ header → (¬ ∃ bytes, Base64.Spells bytes (trimChars payload)) →
      ∃ fault, decodeDataUrl src = .error (.base64 fault)
  /-- Any other payload is taken as it is, with the commas in it. -/
  plain : ∀ header payload, src.toList = header ++ ',' :: payload → ',' ∉ header →
    ¬ ";base64".toList <:+ header → decodeDataUrl src = .ok (utf8Bytes (String.ofList payload))
  /-- Bytes have one text in base 64, and an address with it reads back. -/
  written : ∀ bytes, ∃ text, (∀ text', Base64.Spells bytes text' ↔ text' = text) ∧
    ∀ header, ',' ∉ header → ";base64".toList <:+ header →
      decodeDataUrl (String.ofList (header ++ ',' :: text)) = .ok bytes

/-- **An address with base 64 is read exactly if its payload spells the bytes**, and any other
address as the bytes of its payload. -/
theorem readsDataUrl (src : String) : ReadsDataUrl src := by
  constructor
  case noComma =>
    intro h
    rw [decodeDataUrl, splitAt?_eq_none_iff.2 h]
  case base64 => exact fun header payload hsrc hheader hmark bytes =>
    decodeDataUrl_eq_ok_iff hsrc hheader hmark
  case fault =>
    intro header payload hsrc hheader hmark hnone
    have hread : ∀ bytes,
        decodeDataUrl src = .ok bytes ↔ Base64.Spells bytes (trimChars payload) :=
      fun _ => decodeDataUrl_eq_ok_iff hsrc hheader hmark
    rw [decodeDataUrl_of_mark hsrc hheader hmark] at hread ⊢
    cases hdecode : Base64.decode (utf8Bytes (String.ofList (trimChars payload))) with
    | error fault => exact ⟨fault, rfl⟩
    | ok bytes =>
      rw [hdecode] at hread
      exact (hnone ⟨bytes, (hread bytes).1 rfl⟩).elim
  case plain => exact fun header payload hsrc hheader hmark =>
    decodeDataUrl_of_not_mark hsrc hheader hmark
  case written =>
    intro bytes
    refine ⟨Base64.chars (Base64.encode bytes), fun text' => Base64.spells_iff, ?_⟩
    intro header hheader hmark
    refine (decodeDataUrl_eq_ok_iff (String.toList_ofList) hheader hmark).2 ?_
    rw [trimChars_encode]
    exact Base64.spells_encode bytes

end Addresses

end LabelPress
