import LabelPress.Proofs.IntegerLiterals

/-!
# Reading values back

The text of a JSON value reads back as the value. `Reads` says what a reader makes of a text,
whatever comma or bracket follows it.

* `foldItems_eq`, `foldFields_eq`: items and fields that are read one after another (`Steps`) are
  read together.
* `reads_value`: **a value reads back** if its integers fit 64 bits, its floats read back
  (`ReadsBack`) and it is not too deep (`Readable`).
-/

namespace LabelPress.Json.Reader

open LabelPress.Number LabelPress.Text

variable {s t rest : List Char}

/-! ## What a reader reads -/

variable {α β σ : Type}

/-- The reader reads this text as `a`, whatever comma or bracket follows. -/
def Reads (reader : Reader α) (text : List Char) (a : α) : Prop :=
  ∀ rest, Ends rest → reader (text ++ rest) = .ok (a, rest)

theorem bind_eq {x : Reader α} {f : α → Reader β} {a : α} (h : x s = .ok (a, t)) :
    (x >>= f) s = f a t := by
  have hbind : (x >>= f) s = x s >>= fun p => f p.1 p.2 := rfl
  rw [hbind, h]
  rfl

theorem get_eq : (get : Reader (List Char)) s = .ok (s, s) := rfl

theorem Reads.bind {x : Reader α} {f : α → Reader β} {text : List Char} {a : α} {b : β}
    (hx : Reads x text a) (hf : ∀ rest, Ends rest → f a rest = .ok (b, rest)) :
    Reads (x >>= f) text b :=
  fun rest hrest => (bind_eq (hx rest hrest)).trans (hf rest hrest)

theorem advance_cons {c : Char} : advance (c :: s) = .ok ((), s) := rfl

theorem peek_cons {c : Char} (hc : isSpace c = false) : peek (c :: s) = .ok (some c, c :: s) := by
  unfold peek
  rw [List.dropWhile_cons_of_neg (by simp [hc])]
  rfl

/-- The text begins, and neither with a space nor with the end of a list. -/
def Starts (text : List Char) : Prop :=
  ∃ c cs, text = c :: cs ∧ isSpace c = false ∧ c ≠ ']'

/-- Texts with commas between them, and before the first one unless it is the first of all. -/
def separated : (first : Bool) → List (List Char) → List Char
  | _, [] => []
  | true, text :: texts => text ++ separated false texts
  | false, text :: texts => ',' :: (text ++ separated false texts)

theorem ends_separated {c : Char} (texts : List (List Char)) (rest : List Char)
    (hc : c = ']' ∨ c = '}') :
    Ends (separated false texts ++ c :: rest) := by
  cases texts with
  | nil => exact ends_cons (.inr hc)
  | cons text texts => exact ends_cons (.inl rfl)

theorem length_le_separated {texts : List (List Char)} (h : ∀ text ∈ texts, text ≠ [])
    (first : Bool) : texts.length ≤ (separated first texts).length := by
  induction texts generalizing first with
  | nil => exact Nat.zero_le _
  | cons text texts ih =>
    have htext := List.length_pos_iff.2 (h text List.mem_cons_self)
    have htexts := ih (fun t ht => h t (List.mem_cons_of_mem text ht)) false
    cases first <;> simp only [separated, List.length_cons, List.length_append] <;> omega

/-- One step after another, each with what it is given. -/
inductive Steps (step : σ → β → σ → Prop) : σ → List β → σ → Prop
  | nil (a : σ) : Steps step a [] a
  | cons {a b c : σ} {x : β} {xs : List β} :
    step a x b → Steps step b xs c → Steps step a (x :: xs) c

/-! ### Lists -/

theorem hasItem_close (first : Bool) : hasItem first (']' :: s) = .ok (false, ']' :: s) := rfl

theorem hasItem_first {c : Char} (hspace : isSpace c = false) (hc : c ≠ ']') :
    hasItem true (c :: s) = .ok (true, c :: s) := by
  refine (bind_eq (peek_cons hspace)).trans ?_
  simp only [if_neg hc]
  rfl

theorem hasItem_next {c : Char} (hspace : isSpace c = false) (hc : c ≠ ']') :
    hasItem false (',' :: c :: s) = .ok (true, c :: s) := by
  refine (bind_eq (peek_cons (by decide))).trans ?_
  refine (bind_eq advance_cons).trans ((bind_eq (peek_cons hspace)).trans ?_)
  simp only [if_neg hc]
  rfl

theorem hasItem_separated {text : List Char} (hstarts : Starts text) (first : Bool)
    (texts : List (List Char)) (rest : List Char) :
    hasItem first (separated first (text :: texts) ++ rest)
      = .ok (true, text ++ (separated false texts ++ rest)) := by
  obtain ⟨c, cs, rfl, hspace, hc⟩ := hstarts
  cases first with
  | true =>
    rw [separated, List.append_assoc]
    exact hasItem_first hspace hc
  | false =>
    rw [separated, List.cons_append, List.append_assoc]
    exact hasItem_next hspace hc

/-- The step reads this item. -/
def ReadsItem (step : σ → Reader σ) (a : σ) (text : List Char) (b : σ) : Prop :=
  Starts text ∧ Reads (step a) text b

/-- Items that are read one after another are read together. -/
theorem foldItems_eq {step : σ → Reader σ} {state state' : σ} {texts : List (List Char)}
    (h : Steps (ReadsItem step) state texts state')
    {fuel : Nat} (hfuel : texts.length < fuel) (first : Bool) (rest : List Char) :
    foldItems step fuel first state (separated first texts ++ ']' :: rest)
      = .ok (state', ']' :: rest) := by
  induction h generalizing fuel first with
  | nil a =>
    obtain ⟨fuel, rfl⟩ : ∃ n, fuel = n + 1 := Nat.exists_eq_add_one.2 hfuel
    cases first <;> exact bind_eq (hasItem_close _)
  | @cons a b c text texts hstep _ ih =>
    obtain ⟨fuel, rfl⟩ : ∃ n, fuel = n + 1 :=
      Nat.exists_eq_add_one.2 (Nat.zero_lt_of_lt hfuel)
    have hitem := hasItem_separated hstep.1 first texts (']' :: rest)
    have hread := hstep.2 _ (ends_separated texts rest (.inl rfl))
    refine (bind_eq hitem).trans ((bind_eq hread).trans ?_)
    exact ih (Nat.lt_of_succ_lt_succ hfuel) false

theorem closeArray_eq : closeArray (']' :: s) = .ok ((), s) := rfl

/-- What a list has on its opening bracket. -/
theorem items_eq {item : Reader α} (text : α → List Char) {xs : List α}
    (h : ∀ x ∈ xs, Starts (text x) ∧ Reads item (text x) x) (rest : List Char) :
    items item (separated true (xs.map text) ++ ']' :: rest) = .ok (xs, rest) := by
  have hsteps : ∀ done, Steps (ReadsItem fun done => do return (← item) :: done) done
      (xs.map text) (xs.reverse ++ done) := by
    intro done
    induction xs generalizing done with
    | nil => exact .nil done
    | cons x xs ih =>
      obtain ⟨hstarts, hreads⟩ := h x List.mem_cons_self
      have htail := ih (fun y hy => h y (List.mem_cons_of_mem x hy)) (x :: done)
      rw [List.reverse_cons, List.append_assoc]
      exact .cons ⟨hstarts, hreads.bind fun _ _ => rfl⟩ htail
  have hfuel : (xs.map text).length
      < (separated true (xs.map text) ++ ']' :: rest).length + 1 := by
    have hne : ∀ t ∈ xs.map text, t ≠ [] := by
      intro t ht
      obtain ⟨x, hx, rfl⟩ := List.mem_map.1 ht
      obtain ⟨c, cs, hcs, -⟩ := (h x hx).1
      simp [hcs]
    have hlength := length_le_separated hne true
    rw [List.length_append]
    omega
  have hfold := foldItems_eq (hsteps []) hfuel true rest
  refine (bind_eq get_eq).trans ((bind_eq hfold).trans ((bind_eq closeArray_eq).trans ?_))
  rw [List.append_nil, List.reverse_reverse]
  rfl

/-! ### Objects -/

/-- A field as it is written, its value as a text. -/
def fieldText (field : String × List Char) : List Char :=
  (quote field.1).toList ++ ':' :: field.2

theorem nextKey?_close (first : Bool) : nextKey? first ('}' :: s) = .ok (none, '}' :: s) := rfl

theorem nextKey?_separated (first : Bool) (field : String × List Char)
    (texts : List (List Char)) (rest : List Char) :
    nextKey? first (separated first (fieldText field :: texts) ++ rest)
      = .ok (some field.1, ':' :: (field.2 ++ (separated false texts ++ rest))) := by
  have htext : fieldText field ++ separated false texts ++ rest
      = '"' :: (field.1.toList.flatMap escapeChar
        ++ '"' :: ':' :: (field.2 ++ (separated false texts ++ rest))) := by
    simp [fieldText, toList_quote]
  have hkey := bind_eq (f := fun k => (pure (some k) : Reader (Option String)))
    (stringRest_quote field.1 (':' :: (field.2 ++ (separated false texts ++ rest))))
  cases first with
  | true =>
    rw [separated, htext]
    exact hkey
  | false =>
    rw [separated, List.cons_append, htext]
    exact hkey

/-- The step reads this field from its colon on. -/
def ReadsField (step : σ → String → Reader σ) (a : σ) (field : String × List Char) (b : σ) : Prop :=
  Reads (step a field.1) (':' :: field.2) b

theorem ReadsField.intro {step : σ → String → Reader σ} {a b : σ} {key : String} {text : List Char}
    (h : Reads (step a key) (':' :: text) b) : ReadsField step a (key, text) b := h

/-- Fields that are read one after another are read together. -/
theorem foldFields_eq {step : σ → String → Reader σ} {state state' : σ}
    {fields : List (String × List Char)}
    (h : Steps (ReadsField step) state fields state')
    {fuel : Nat} (hfuel : fields.length < fuel) (first : Bool) (rest : List Char) :
    foldFields step fuel first state (separated first (fields.map fieldText) ++ '}' :: rest)
      = .ok (state', '}' :: rest) := by
  induction h generalizing fuel first with
  | nil a =>
    obtain ⟨fuel, rfl⟩ : ∃ n, fuel = n + 1 := Nat.exists_eq_add_one.2 hfuel
    cases first <;> exact bind_eq (nextKey?_close _)
  | @cons a b c field fields hstep _ ih =>
    obtain ⟨fuel, rfl⟩ : ∃ n, fuel = n + 1 :=
      Nat.exists_eq_add_one.2 (Nat.zero_lt_of_lt hfuel)
    have hkey := nextKey?_separated first field (fields.map fieldText) ('}' :: rest)
    have hread := hstep _ (ends_separated (fields.map fieldText) rest (.inr rfl))
    refine (bind_eq hkey).trans ((bind_eq hread).trans ?_)
    exact ih (Nat.lt_of_succ_lt_succ hfuel) false

theorem closeObject_eq : closeObject ('}' :: s) = .ok ((), s) := rfl

theorem Reads.colon {reader : Reader α} {text : List Char} {a : α} (h : Reads reader text a) :
    Reads (do colon; reader) (':' :: text) a :=
  fun rest hrest => h rest hrest

theorem length_lt_fields (fields : List (String × List Char)) (rest : List Char) :
    fields.length < (separated true (fields.map fieldText) ++ '}' :: rest).length + 1 := by
  have hne : ∀ t ∈ fields.map fieldText, t ≠ [] := by
    intro t ht
    obtain ⟨field, -, rfl⟩ := List.mem_map.1 ht
    simp [fieldText, toList_quote]
  have hlength := length_le_separated hne true
  rw [List.length_map] at hlength
  rw [List.length_append]
  omega

/-- Puts the field of this key in front of those read before it. -/
def consField (item : Reader α) (done : List (String × α)) (key : String) :
    Reader (List (String × α)) := do
  colon
  return (key, ← item) :: done

/-- What an object has on its opening brace. -/
theorem fields_eq {item : Reader α} (text : α → List Char) {xs : List (String × α)}
    (h : ∀ x ∈ xs, Reads item (text x.2) x.2) (rest : List Char) :
    fields item (separated true ((xs.map fun x => (x.1, text x.2)).map fieldText) ++ '}' :: rest)
      = .ok (xs, rest) := by
  have hsteps : ∀ done, Steps (ReadsField (consField item)) done
      (xs.map fun x => (x.1, text x.2)) (xs.reverse ++ done) := by
    intro done
    induction xs generalizing done with
    | nil => exact .nil done
    | cons x xs ih =>
      have htail := ih (fun y hy => h y (List.mem_cons_of_mem x hy)) (x :: done)
      rw [List.reverse_cons, List.append_assoc]
      refine .cons (ReadsField.intro (Reads.colon ?_)) htail
      exact (h x List.mem_cons_self).bind fun _ _ => rfl
  have hfold := foldFields_eq (hsteps []) (length_lt_fields _ rest) true rest
  refine (bind_eq get_eq).trans ((bind_eq hfold).trans ((bind_eq closeObject_eq).trans ?_))
  rw [List.append_nil, List.reverse_reverse]
  rfl

/-! ## Values -/

/-- A float that reads back. -/
def ReadsBack (x : Float) : Prop :=
  number (renderReal x).toList = .ok (.real x, [])

instance (x : Float) : Decidable (ReadsBack x) :=
  match h : number (renderReal x).toList with
  | .ok (.real y, []) => decidable_of_iff (y = x) (by simp [ReadsBack, h])
  | .ok (.real _, _ :: _) => .isFalse (by simp [ReadsBack, h])
  | .ok (.null, _) | .ok (.bool _, _) | .ok (.integer _, _) | .ok (.string _, _)
  | .ok (.array _, _) | .ok (.object _, _) | .error _ => .isFalse (by simp [ReadsBack, h])

/-- A value that holds no other and is no list; an integer fits 64 bits, and a float reads back. -/
def Scalar : Json → Prop
  | .null | .bool _ | .string _ => True
  | .integer i => minInteger ≤ i ∧ i ≤ maxInteger
  | .real x => ReadsBack x
  | .array _ | .object _ => False

@[simp] theorem scalar_string (s : String) : Scalar (.string s) := trivial

@[simp] theorem scalar_bool (b : Bool) : Scalar (.bool b) := trivial

@[simp] theorem scalar_real_iff {x : Float} : Scalar (.real x) ↔ ReadsBack x := .rfl

/-- All values inside are scalars, and at most `depth` lists and objects are open at once. -/
def Readable : (depth : Nat) → Json → Prop
  | depth + 1, .array items => ∀ item ∈ items, Readable depth item
  | depth + 1, .object fields => ∀ field ∈ fields, Readable depth field.2
  | _, j => Scalar j

theorem number_starts {c : Char} (hc : c = '-' ∨ c.isDigit) : isSpace c = false ∧ c ≠ ']' := by
  obtain rfl | hdigit := hc
  · decide
  · constructor
    · by_contra hspace
      simp only [isSpace, Bool.not_eq_false, Bool.or_eq_true, beq_iff_eq, or_assoc] at hspace
      rcases hspace with rfl | rfl | rfl | rfl <;> exact absurd hdigit (by decide)
    · rintro rfl
      exact absurd hdigit (by decide)

theorem valueOf_number {inner : Option (Reader Json)} {text : List Char} {j : Json}
    (h : number text = .ok (j, [])) : Reads (valueOf inner) text j := by
  intro rest hrest
  obtain ⟨c, cs, rfl, hc⟩ := number_head h
  have hread : number (c :: cs ++ rest) = .ok (j, rest) := number_append h hrest
  have hword : c ≠ 'n' ∧ c ≠ 't' ∧ c ≠ 'f' := by
    refine ⟨?_, ?_, ?_⟩ <;> (rintro rfl; exact absurd hc (by decide))
  refine (bind_eq (peek_cons (number_starts hc).1)).trans ?_
  simp only [if_neg hword.1, if_neg hword.2.1, if_neg hword.2.2, if_pos hc]
  exact hread

theorem valueOf_string (inner : Option (Reader Json)) (s : String) :
    Reads (valueOf inner) (quote s).toList (.string s) := by
  intro rest _
  have hread := bind_eq (f := fun s => (pure (.string s) : Reader Json)) (stringRest_quote s rest)
  rw [toList_quote, List.cons_append, List.append_assoc]
  exact hread

theorem toList_renderItems (items : List Json) :
    (renderItems items).toList = separated true (items.map fun item => item.render.toList) := by
  induction items with
  | nil => rfl
  | cons item items ih =>
    cases items with
    | nil => simp [renderItems, separated]
    | cons next items => simpa [renderItems, separated] using ih

theorem toList_renderFields (fields : List (String × Json)) : (renderFields fields).toList
    = separated true ((fields.map fun x => (x.1, x.2.render.toList)).map fieldText) := by
  induction fields with
  | nil => rfl
  | cons field fields ih =>
    cases fields with
    | nil => simp [renderFields, separated, fieldText]
    | cons next fields => simpa [renderFields, separated, fieldText] using ih

theorem number_text_starts {text : List Char} {j : Json} (h : number text = .ok (j, [])) :
    Starts text := by
  obtain ⟨c, cs, rfl, hc⟩ := number_head h
  exact ⟨c, cs, rfl, number_starts hc⟩

theorem Scalar.starts {j : Json} (h : Scalar j) : Starts j.render.toList := by
  cases j with
  | null => exact ⟨'n', _, rfl, by decide⟩
  | bool b => cases b <;> exact ⟨_, _, rfl, by decide⟩
  | integer i => exact number_text_starts (number_integer h.1 h.2)
  | real x => exact number_text_starts h
  | string s => exact ⟨'"', _, toList_quote s, by decide⟩
  | array items => exact h.elim
  | object fields => exact h.elim

theorem render_array_starts (items : List Json) : Starts (render (.array items)).toList := by
  refine ⟨'[', (renderItems items).toList ++ [']'], ?_, by decide⟩
  simp [render]

theorem render_object_starts (fields : List (String × Json)) :
    Starts (render (.object fields)).toList := by
  refine ⟨'\x7b', (renderFields fields).toList ++ ['}'], ?_, by decide⟩
  simp [render]

theorem Readable.starts {depth : Nat} {j : Json} (h : Readable depth j) :
    Starts j.render.toList := by
  cases j with
  | array items => exact render_array_starts items
  | object fields => exact render_object_starts fields
  | _ => cases depth <;> exact Scalar.starts h

theorem toList_render_array (items : List Json) (rest : List Char) :
    (render (.array items)).toList ++ rest
      = '[' :: (separated true (items.map fun i => i.render.toList) ++ ']' :: rest) := by
  simp [render, toList_renderItems]

theorem toList_render_object (fields : List (String × Json)) (rest : List Char) :
    (render (.object fields)).toList ++ rest = '\x7b' :: (separated true
      ((fields.map fun x => (x.1, x.2.render.toList)).map fieldText) ++ '}' :: rest) := by
  simp [render, toList_renderFields]

theorem valueOf_bracket (item : Reader Json) : valueOf (some item) ('[' :: s)
    = (items item >>= fun values => pure (.array values) : Reader Json) s := rfl

theorem valueOf_brace (item : Reader Json) : valueOf (some item) ('\x7b' :: s)
    = (fields item >>= fun values => pure (.object values) : Reader Json) s := rfl

theorem valueOf_array {item : Reader Json} {items : List Json}
    (h : ∀ i ∈ items, Starts i.render.toList ∧ Reads item i.render.toList i) :
    Reads (valueOf (some item)) (render (.array items)).toList (.array items) := by
  intro rest _
  rw [toList_render_array, valueOf_bracket, bind_eq (items_eq _ h rest)]
  rfl

theorem valueOf_object {item : Reader Json} {fields : List (String × Json)}
    (h : ∀ field ∈ fields, Reads item field.2.render.toList field.2) :
    Reads (valueOf (some item)) (render (.object fields)).toList (.object fields) := by
  intro rest _
  rw [toList_render_object, valueOf_brace,
    bind_eq (fields_eq (fun j : Json => j.render.toList) h rest)]
  rfl

theorem Scalar.reads {inner : Option (Reader Json)} {j : Json} (h : Scalar j) :
    Reads (valueOf inner) j.render.toList j := by
  cases j with
  | null => exact fun rest _ => rfl
  | bool b => cases b <;> exact fun rest _ => rfl
  | integer i => exact valueOf_number (number_integer h.1 h.2)
  | real x => exact valueOf_number h
  | string s => exact valueOf_string inner s
  | array items => exact h.elim
  | object fields => exact h.elim

theorem Scalar.readable {depth : Nat} {j : Json} (h : Scalar j) : Readable depth j := by
  cases j with
  | array items => exact h.elim
  | object fields => exact h.elim
  | _ => cases depth <;> exact h

/-- **A value reads back** from its text. -/
theorem reads_value {depth : Nat} {j : Json} (h : Readable depth j) :
    Reads (value depth) j.render.toList j := by
  induction depth generalizing j with
  | zero => exact Scalar.reads h
  | succ depth ih =>
    cases j with
    | array items => exact valueOf_array fun i hi => ⟨(h i hi).starts, ih (h i hi)⟩
    | object fields => exact valueOf_object fun field hfield => ih (h field hfield)
    | _ => exact Scalar.reads h

/-- A whole text that is that of a value stands for the value. -/
theorem parse_of_readable {j : Json} (h : Readable maxDepth j) : parse j.render = .ok j := by
  have hread := reads_value h [] nofun
  rw [List.append_nil] at hread
  exact bind_eq_ok_iff.2 ⟨_, hread, if_pos rfl⟩

/-! ## Values of a known kind -/

theorem peekValue_cons {d : Char} {s : List Char} (hd : isSpace d = false) :
    peekValue (d :: s) = .ok (d, d :: s) :=
  bind_eq (peek_cons hd)

theorem reads_numberFor {expected : Expected} {ofNumber : Json → Except Fault α}
    {text : List Char} {j : Json} {a : α} (htext : number text = .ok (j, []))
    (hj : ofNumber j = .ok a) : Reads (numberFor expected ofNumber) text a := by
  intro rest hrest
  have hnumber : number (text ++ rest) = .ok (j, rest) := number_append htext hrest
  obtain ⟨d, ds, rfl, hd⟩ := number_head htext
  refine (bind_eq (peekValue_cons (number_starts hd).1)).trans ?_
  rw [if_pos hd]
  refine (bind_eq hnumber).trans ?_
  rw [hj]
  rfl

theorem string_quote (s : List Char) : string ('"' :: s) = stringRest s := rfl

theorem optional_eq {item : Reader α} {d : Char} {s : List Char} (hspace : isSpace d = false)
    (hd : d ≠ 'n') : optional item (d :: s) = (item >>= fun a => pure (some a)) (d :: s) := by
  refine (bind_eq (peek_cons hspace)).trans ?_
  rw [if_neg (fun h => hd (Option.some.inj h))]

theorem reads_optional (s : String) :
    Reads (optional string) (render (.string s)).toList (some s) := by
  intro rest _
  have hstring : string ('"' :: (s.toList.flatMap escapeChar ++ ('"' :: rest)))
      = .ok (s, rest) := by
    rw [string_quote, stringRest_quote]
  rw [render, toList_quote, List.cons_append, List.append_assoc, List.singleton_append,
    optional_eq (by decide) (by decide), bind_eq hstring]
  rfl

end LabelPress.Json.Reader
