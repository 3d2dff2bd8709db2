import LabelPress.Proofs.ReadRanges
import Mathlib.Data.List.Nodup

/-!
# Reading elements back

An element is written as one object, and read from its fields sorted by their keys. Neither the
order of the fields nor the defaults that they replace matter.

* `sortFields_perm`: sorting loses no field if no key stands twice.
* `Settable`: what setting a single field does. `Settable.setFields_eq` concludes that the fields
  of a state, in any order and among others, make that state.
* `Frame.settable`, `ElementKind.settable`: frames and the known kinds are of this sort.
* `Element.ofJson_toFields`: **an element of a known type reads back**.
-/

namespace LabelPress

open LabelPress.Number

/-! ## Fields by their keys -/

section Fields

variable {α : Type} {fields fields' : List (String × α)} {field : String × α}

/-- The keys of fields. -/
abbrev keysOf (fields : List (String × α)) : List String := fields.map Prod.fst

/-- Puts the first field in the place of the second if it has the same key. -/
def put (field old : String × α) : String × α := if old.1 = field.1 then field else old

theorem put_of_ne {old : String × α} (h : old.1 ≠ field.1) : put field old = old := if_neg h

/-- Fields with the same keys in the same order are equal if each of them is among the others. -/
theorem eq_of_keysOf_eq (hnodup : (keysOf fields').Nodup) (hkeys : keysOf fields = keysOf fields')
    (hsub : ∀ field ∈ fields, field ∈ fields') : fields = fields' := by
  have hlength : fields.length = fields'.length := by
    have h := congrArg List.length hkeys
    rwa [List.length_map, List.length_map] at h
  refine List.ext_getElem hlength fun i hi hi' => ?_
  have hkey : fields[i].1 = fields'[i].1 := by
    have h := congrArg (·[i]?) hkeys
    simpa [hi, hi'] using h
  exact List.inj_on_of_nodup_map hnodup (hsub _ (List.getElem_mem hi)) (List.getElem_mem hi') hkey

theorem lookup_of_mem {key : String} {value : α} (hnodup : (keysOf fields).Nodup)
    (h : (key, value) ∈ fields) : fields.lookup key = some value := by
  obtain ⟨front, back, rfl⟩ := List.append_of_mem h
  refine List.lookup_eq_some_iff.2 ⟨front, back, rfl, fun old hold => ?_⟩
  rw [bne_iff_ne]
  rintro rfl
  rw [keysOf, List.map_append] at hnodup
  exact List.disjoint_of_nodup_append hnodup (List.mem_map_of_mem hold) List.mem_cons_self

theorem insertField_perm {key : String} (value : α) (h : key ∉ keysOf fields) :
    (insertField key value fields).Perm ((key, value) :: fields) := by
  induction fields with
  | nil => exact .refl _
  | cons field fields ih =>
    obtain ⟨hne, hmem⟩ := List.ne_and_not_mem_of_not_mem_cons h
    obtain ⟨k, v⟩ := field
    unfold insertField
    split_ifs with hlt
    · exact .refl _
    · exact ((ih hmem).cons (k, v)).trans (.swap (key, value) (k, v) fields)

theorem foldl_insertField_perm {sorted : List (String × α)}
    (hnodup : (keysOf (fields ++ sorted)).Nodup) :
    (fields.foldl (fun sorted field => insertField field.1 field.2 sorted) sorted).Perm
      (fields ++ sorted) := by
  induction fields generalizing sorted with
  | nil => exact .refl _
  | cons field fields ih =>
    have hmiddle : (field :: (fields ++ sorted)).Perm (fields ++ field :: sorted) :=
      List.perm_middle.symm
    have hfresh : field.1 ∉ keysOf sorted := by
      intro hmem
      rw [keysOf, List.cons_append, List.map_cons, List.nodup_cons, List.map_append] at hnodup
      exact hnodup.1 (List.mem_append_right _ hmem)
    have hinsert := (insertField_perm field.2 hfresh).append_left fields
    -- keys stay apart when a field moves from the fields to the sorted ones
    have hsorted : (keysOf (fields ++ insertField field.1 field.2 sorted)).Nodup :=
      ((hmiddle.trans hinsert.symm).map Prod.fst).nodup hnodup
    exact (ih hsorted).trans (hinsert.trans hmiddle.symm)

/-- Sorting loses no field if every key stands once. -/
theorem sortFields_perm (hnodup : (keysOf fields).Nodup) : (sortFields fields).Perm fields := by
  rw [← List.append_nil fields] at hnodup
  have h := foldl_insertField_perm hnodup
  rwa [List.append_nil] at h

end Fields

namespace Json

/-! ## Setting fields in any order -/

section SetFields

variable {σ : Type} {set : σ → String → Json → Option (Except Fault σ)}
  {toFields : σ → List (String × Json)} {similar : σ → Prop} {target : σ}

/-- Among states like `target`, a field of `target` can be set and takes the place of the field
with its key; no other key is known. -/
structure Settable (set : σ → String → Json → Option (Except Fault σ))
    (toFields : σ → List (String × Json)) (similar : σ → Prop) (target : σ) : Prop where
  nodup : (keysOf (toFields target)).Nodup
  set_eq : ∀ state, similar state → ∀ field ∈ toFields target, ∃ next,
    set state field.1 field.2 = some (.ok next) ∧ similar next ∧
      toFields next = (toFields state).map (put field)
  set_other : ∀ state, similar state → ∀ key ∉ keysOf (toFields target), ∀ value,
    set state key value = none
  keys_eq : ∀ state, similar state → keysOf (toFields state) = keysOf (toFields target)
  ext : ∀ state, similar state → toFields state = toFields target → state = target

/-- The fields set so far are those of `target`. -/
structure Settled (toFields : σ → List (String × Json)) (similar : σ → Prop) (target state : σ)
    (seen : List String) : Prop where
  similar : similar state
  agrees : ∀ field ∈ toFields state, field.1 ∈ seen → field ∈ toFields target

theorem Settled.put {state next : σ} {seen : List String} {key : String} {value : Json}
    (h : Settled toFields similar target state seen) (hnext : similar next)
    (hmem : (key, value) ∈ toFields target)
    (hput : toFields next = (toFields state).map (put (key, value))) :
    Settled toFields similar target next (key :: seen) := by
  refine ⟨hnext, fun field hfield hseen => ?_⟩
  rw [hput] at hfield
  obtain ⟨old, hold, rfl⟩ := List.mem_map.1 hfield
  by_cases hkey : old.1 = key
  · rwa [LabelPress.put, if_pos hkey]
  · rw [put_of_ne hkey] at hseen ⊢
    exact h.agrees old hold ((List.mem_cons.1 hseen).resolve_left hkey)

/-- One field after another is set. -/
theorem Settable.setFields_settled (h : Settable set toFields similar target)
    {fields : List (String × Json)} (hnodup : (keysOf fields).Nodup)
    (hfields : ∀ field ∈ fields, field.1 ∈ keysOf (toFields target) → field ∈ toFields target)
    {state : σ} {seen : List String} (hstate : Settled toFields similar target state seen)
    (hseen : ∀ key ∈ seen, key ∉ keysOf fields) :
    ∃ final seen', setFields set fields state seen = .ok (final, seen') ∧
      Settled toFields similar target final seen' ∧ seen ⊆ seen' ∧
      ∀ key ∈ keysOf fields, key ∈ keysOf (toFields target) → key ∈ seen' := by
  induction fields generalizing state seen with
  | nil => exact ⟨state, seen, rfl, hstate, fun _ => id, fun _ hkey => nomatch hkey⟩
  | cons field fields ih =>
    obtain ⟨key, value⟩ := field
    obtain ⟨hfresh, hnodup⟩ := List.nodup_cons.1 hnodup
    have hrest : ∀ field ∈ fields, field.1 ∈ keysOf (toFields target) → field ∈ toFields target :=
      fun field hfield => hfields field (List.mem_cons_of_mem _ hfield)
    have hbefore : ∀ k ∈ seen, k ∉ keysOf fields :=
      fun k hk hmem => hseen k hk (List.mem_cons_of_mem _ hmem)
    -- a key that is not known is passed over; a known one was not set before
    by_cases hkey : key ∈ keysOf (toFields target)
    · have hmem := hfields (key, value) List.mem_cons_self hkey
      obtain ⟨next, hset, hnext, hput⟩ := h.set_eq state hstate.similar _ hmem
      have hfirst : key ∉ seen := fun hk => hseen key hk List.mem_cons_self
      have hseen' : ∀ k ∈ key :: seen, k ∉ keysOf fields := by
        intro k hk
        obtain rfl | hk := List.mem_cons.1 hk
        · exact hfresh
        · exact hbefore k hk
      obtain ⟨final, seen', hrun, hfinal, hsub, hkeys⟩ :=
        ih hnodup hrest (hstate.put hnext hmem hput) hseen'
      refine ⟨final, seen', ?_, hfinal, List.subset_of_cons_subset hsub, fun k hk hknown => ?_⟩
      · rw [setFields, hset]
        dsimp only
        rw [if_neg hfirst]
        exact hrun
      · obtain rfl | hk := List.mem_cons.1 hk
        · exact hsub List.mem_cons_self
        · exact hkeys k hk hknown
    · obtain ⟨final, seen', hrun, hfinal, hsub, hkeys⟩ := ih hnodup hrest hstate hbefore
      refine ⟨final, seen', ?_, hfinal, hsub, fun k hk hknown => ?_⟩
      · rw [setFields, h.set_other state hstate.similar key hkey value]
        exact hrun
      · obtain rfl | hk := List.mem_cons.1 hk
        · exact absurd hknown hkey
        · exact hkeys k hk hknown

/-- The fields of `target`, in any order and among others, make `target`. -/
theorem Settable.setFields_eq (h : Settable set toFields similar target)
    {fields : List (String × Json)} (hnodup : (keysOf fields).Nodup)
    (hfields : ∀ field ∈ fields, field.1 ∈ keysOf (toFields target) → field ∈ toFields target)
    (hall : toFields target ⊆ fields) {state : σ} (hstate : similar state) :
    ∃ seen, setFields set fields state [] = .ok (target, seen) ∧
      keysOf (toFields target) ⊆ seen := by
  have hstart : Settled toFields similar target state [] := ⟨hstate, fun _ _ hseen => nomatch hseen⟩
  obtain ⟨final, seen, hrun, hfinal, -, hkeys⟩ :=
    h.setFields_settled hnodup hfields hstart fun _ hkey => nomatch hkey
  have hseen : keysOf (toFields target) ⊆ seen :=
    fun key hkey => hkeys key (List.map_subset Prod.fst hall hkey) hkey
  have hsame := h.keys_eq final hfinal.similar
  have hfields' : toFields final = toFields target := by
    refine eq_of_keysOf_eq h.nodup hsame fun field hfield => ?_
    refine hfinal.agrees field hfield (hseen ?_)
    rw [← hsame]
    exact List.mem_map_of_mem hfield
  rw [h.ext final hfinal.similar hfields'] at hrun
  exact ⟨seen, hrun, hseen⟩

end SetFields

end Json

open Json

/-! ## Frames -/

namespace Frame

theorem keysOf_toFields (f : Frame) : keysOf f.toFields = keys := rfl

theorem set_eq_none_iff {f : Frame} {key : String} {value : Json} :
    f.set key value = none ↔ key ∉ keys := by
  unfold set
  split <;> simp_all [keys]

theorem settable {f : Frame} (hf : f.Fits) :
    Settable Frame.set toFields (fun _ => True) f where
  nodup := by
    rw [keysOf_toFields]
    decide
  set_eq := by
    intro state _
    have hz : asInt32 (.integer f.zIndex) = .ok f.zIndex := if_pos hf
    simp [toFields, set, put, asString, asFloat, asBool, hz, bind, Except.bind, pure, Except.pure]
  set_other := fun state _ key hkey value => set_eq_none_iff.2 hkey
  keys_eq := fun _ _ => rfl
  ext := by
    intro state _ h
    cases state
    cases f
    simp_all [toFields]

end Frame

/-! ## Kinds -/

namespace TextAlign

theorem ofJson_name (align : TextAlign) : ofJson (.string align.name) = .ok align := by
  cases align <;> rfl

theorem name_inj {a b : TextAlign} : a.name = b.name ↔ a = b := by
  cases a <;> cases b <;> decide

end TextAlign

theorem Json.asOptionalString_ofOptionalString (s : Option String) :
    (ofOptionalString s).asOptionalString = .ok s := by
  cases s <;> rfl

theorem Json.ofOptionalString_inj {s t : Option String} :
    ofOptionalString s = ofOptionalString t ↔ s = t := by
  cases s <;> cases t <;> simp [ofOptionalString]

namespace ElementKind

/-- Kinds of the same known type. -/
inductive SameType : ElementKind → ElementKind → Prop
  | text (a b : TextElement) : SameType (.text a) (.text b)
  | rectangle (a b : RectangleElement) : SameType (.rectangle a) (.rectangle b)
  | ellipse (a b : EllipseElement) : SameType (.ellipse a) (.ellipse b)
  | line (a b : LineElement) : SameType (.line a) (.line b)
  | barcode (a b : BarcodeElement) : SameType (.barcode a) (.barcode b)
  | image (a b : ImageElement) : SameType (.image a) (.image b)
  | slot (a b : VariableElement) : SameType (.slot a) (.slot b)

variable {kind state : ElementKind}

theorem SameType.set_eq (h : SameType state kind) : ∀ field ∈ kind.toFields, ∃ next,
    state.set field.1 field.2 = some (.ok next) ∧ SameType next kind ∧
      next.toFields = state.toFields.map (put field) := by
  -- one case for each type and field: the branch of `set` that has its key
  cases h <;> simp [toFields, set, put, asString, asFloat, asBool,
    asOptionalString_ofOptionalString, TextAlign.ofJson_name, bind, Except.bind, pure, Except.pure,
    SameType.text, SameType.rectangle, SameType.ellipse, SameType.line, SameType.barcode,
    SameType.image, SameType.slot]

theorem SameType.set_eq_none (h : SameType state kind) {key : String}
    (hkey : key ∉ keysOf kind.toFields) (value : Json) : state.set key value = none := by
  cases h <;> (unfold set; split <;> simp_all [toFields])

theorem SameType.ext (h : SameType state kind) (hfields : state.toFields = kind.toFields) :
    state = kind := by
  cases h with
  | text a b =>
    cases a
    cases b
    simp_all [toFields, ofOptionalString_inj, TextAlign.name_inj]
  | rectangle a b => cases a; cases b; simp_all [toFields, ofOptionalString_inj]
  | ellipse a b => cases a; cases b; simp_all [toFields, ofOptionalString_inj]
  | line a b => cases a; cases b; simp_all [toFields, ofOptionalString_inj]
  | barcode a b => cases a; cases b; simp_all [toFields, ofOptionalString_inj]
  | image a b => cases a; cases b; simp_all [toFields, ofOptionalString_inj]
  | slot a b => cases a; cases b; simp_all [toFields, ofOptionalString_inj]

theorem settable (kind : ElementKind) : Settable set toFields (SameType · kind) kind where
  nodup := by
    cases kind <;> simp [toFields]
  set_eq := fun _ h => h.set_eq
  set_other := fun _ h _ hkey value => h.set_eq_none hkey value
  keys_eq := by
    intro state h
    cases h <;> rfl
  ext := fun _ h hfields => h.ext hfields

/-- The name of a known type gives its defaults. -/
theorem ofTag_typeName (h : kind.isKnown) :
    ∃ start, ofTag (.string kind.typeName) = .ok start ∧ SameType start kind := by
  cases kind with
  | text t => exact ⟨.text {}, rfl, .text _ _⟩
  | rectangle r => exact ⟨.rectangle {}, rfl, .rectangle _ _⟩
  | ellipse e => exact ⟨.ellipse {}, rfl, .ellipse _ _⟩
  | line l => exact ⟨.line {}, rfl, .line _ _⟩
  | barcode b => exact ⟨.barcode {}, rfl, .barcode _ _⟩
  | image i => exact ⟨.image {}, rfl, .image _ _⟩
  | slot v => exact ⟨.slot {}, rfl, .slot _ _⟩
  | unknown name => cases h

/-- No key of a frame or of a kind stands twice in an element. -/
theorem nodup_keys (kind : ElementKind) :
    (Frame.keys ++ "type" :: keysOf kind.toFields).Nodup := by
  cases kind <;> simp [Frame.keys, toFields]

theorem tagOf_of_not_mem {fields : List (String × Json)} (h : "type" ∉ keysOf fields) :
    tagOf fields (some kind) = .ok kind := by
  induction fields with
  | nil => rfl
  | cons field fields ih =>
    obtain ⟨hne, hfields⟩ := List.ne_and_not_mem_of_not_mem_cons h
    rw [tagOf, if_neg (Ne.symm hne)]
    exact ih hfields

theorem tagOf_eq {fields : List (String × Json)} {tag : Json} (hnodup : (keysOf fields).Nodup)
    (hmem : ("type", tag) ∈ fields) (htag : ofTag tag = .ok kind) :
    tagOf fields none = .ok kind := by
  induction fields with
  | nil => cases hmem
  | cons field fields ih =>
    obtain ⟨hfresh, hnodup⟩ := List.nodup_cons.1 hnodup
    obtain rfl | hmem := List.mem_cons.1 hmem
    · have hrest : tagOf fields (some kind) = .ok kind := tagOf_of_not_mem hfresh
      rw [tagOf, if_pos rfl, htag]
      exact hrest
    · have hne : field.1 ≠ "type" := by
        rintro heq
        exact hfresh (heq ▸ List.mem_map_of_mem (f := Prod.fst) hmem)
      rw [tagOf, if_neg hne]
      exact ih hnodup hmem

/-- A kind is read from its type and its fields in any order. -/
theorem ofFields_eq (hknown : kind.isKnown) {fields : List (String × Json)}
    (hperm : fields.Perm (("type", .string kind.typeName) :: kind.toFields)) :
    ofFields fields = .ok kind := by
  obtain ⟨start, htag, hstart⟩ := ofTag_typeName hknown
  have hkeys : (keysOf (("type", .string kind.typeName) :: kind.toFields)).Nodup :=
    (nodup_keys kind).of_append_right
  have hnodup : (keysOf fields).Nodup := (hperm.map Prod.fst).nodup_iff.2 hkeys
  have hread := tagOf_eq hnodup (hperm.mem_iff.2 List.mem_cons_self) htag
  have hfields : ∀ field ∈ fields, field.1 ∈ keysOf kind.toFields → field ∈ kind.toFields := by
    intro field hfield hkey
    obtain rfl | hmem := List.mem_cons.1 (hperm.mem_iff.1 hfield)
    · exact absurd hkey (List.nodup_cons.1 hkeys).1
    · exact hmem
  have hall : kind.toFields ⊆ fields :=
    fun field hfield => hperm.mem_iff.2 (List.mem_cons_of_mem _ hfield)
  obtain ⟨seen, hset, -⟩ := (settable kind).setFields_eq hnodup hfields hall hstart
  unfold ofFields
  rw [hread]
  change (setFields set fields start [] >>= _) = _
  rw [hset]
  rfl

end ElementKind

/-! ## Elements -/

namespace Element

variable {e : Element}

/-- The fields of an element of a known type. -/
def toFields (e : Element) : List (String × Json) :=
  e.frame.toFields ++ ("type", .string e.kind.typeName) :: e.kind.toFields

theorem toJson_eq (h : e.kind.isKnown) : e.toJson = .ok (.object e.toFields) := if_pos h

theorem nodup_keysOf_toFields (e : Element) : (keysOf e.toFields).Nodup := by
  rw [keysOf, toFields, List.map_append]
  exact e.kind.nodup_keys

theorem mem_frame_of_key_mem {field : String × Json} (h : field ∈ e.toFields)
    (hkey : field.1 ∈ Frame.keys) : field ∈ e.frame.toFields := by
  obtain hframe | hkind := List.mem_append.1 h
  · exact hframe
  · have hdisjoint := List.disjoint_of_nodup_append e.kind.nodup_keys
    exact absurd (List.mem_map_of_mem (f := Prod.fst) hkind) (hdisjoint hkey)

theorem filter_toFields (e : Element) :
    (e.toFields.filter fun field => !Frame.keys.contains field.1)
      = ("type", .string e.kind.typeName) :: e.kind.toFields := by
  have hdisjoint := List.disjoint_of_nodup_append e.kind.nodup_keys
  have hframe : (e.frame.toFields.filter fun field => !Frame.keys.contains field.1) = [] := rfl
  rw [toFields, List.filter_append, hframe, List.nil_append, List.filter_eq_self]
  intro field hfield
  have hkey : field.1 ∉ Frame.keys :=
    fun hmem => hdisjoint hmem (List.mem_map_of_mem (f := Prod.fst) hfield)
  simpa using hkey

variable {fields : List (String × Json)}

theorem frame_ofFields_eq (hfits : e.frame.Fits)
    (hperm : fields.Perm e.toFields) : Frame.ofFields fields = .ok e.frame := by
  have hnodup := (hperm.map Prod.fst).nodup_iff.2 e.nodup_keysOf_toFields
  have hfields : ∀ field ∈ fields, field.1 ∈ Frame.keys → field ∈ e.frame.toFields :=
    fun field hfield hkey => mem_frame_of_key_mem (hperm.mem_iff.1 hfield) hkey
  have hall : e.frame.toFields ⊆ fields :=
    fun field hfield => hperm.mem_iff.2 (List.mem_append_left _ hfield)
  obtain ⟨seen, hset, hseen⟩ := (Frame.settable hfits).setFields_eq hnodup hfields hall trivial
  have hid : "id" ∈ seen := hseen List.mem_cons_self
  unfold Frame.ofFields
  rw [hset]
  exact if_pos hid

/-- An element of a known type is read from its fields in any order. -/
theorem ofFields_eq (hknown : e.kind.isKnown)
    (hfits : e.frame.Fits)
    (hperm : fields.Perm e.toFields) : ofFields fields = .ok e := by
  have hkind : ElementKind.ofFields (fields.filter fun field => !Frame.keys.contains field.1)
      = .ok e.kind := by
    refine ElementKind.ofFields_eq hknown ?_
    rw [← e.filter_toFields]
    exact hperm.filter _
  unfold ofFields
  rw [frame_ofFields_eq hfits hperm, hkind]
  rfl

theorem typeNameOf_eq (hperm : fields.Perm e.toFields) : typeNameOf fields = e.kind.typeName := by
  have hnodup := (hperm.map Prod.fst).nodup_iff.2 e.nodup_keysOf_toFields
  have hmem : ("type", .string e.kind.typeName) ∈ fields :=
    hperm.mem_iff.2 (List.mem_append_right _ List.mem_cons_self)
  unfold typeNameOf
  rw [lookup_of_mem hnodup hmem]

theorem any_kinds {kind : ElementKind} (h : kind.isKnown) :
    kinds.any (·.1 = kind.typeName) = true := by
  cases kind with
  | unknown name => cases h
  | _ => rfl

theorem canonical_ofOptionalString (s : Option String) :
    (ofOptionalString s).canonical = ofOptionalString s := by
  cases s <;> rfl

theorem canonical_of_mem_toFields {field : String × Json} (h : field ∈ e.toFields) :
    field.2.canonical = field.2 := by
  revert field
  cases hk : e.kind <;>
    simp [toFields, hk, Frame.toFields, ElementKind.toFields, canonical, canonical_ofOptionalString]

theorem canonicalFields_eq_self (h : ∀ field ∈ fields, field.2.canonical = field.2) :
    canonicalFields fields = fields := by
  induction fields with
  | nil => rfl
  | cons field fields ih =>
    obtain ⟨key, value⟩ := field
    have hvalue : value.canonical = value := h (key, value) List.mem_cons_self
    rw [canonicalFields, hvalue, ih fun f hf => h f (List.mem_cons_of_mem _ hf)]

/-- **An element of a known type reads back** from the object that it is written as. -/
theorem ofJson_toFields (hknown : e.kind.isKnown)
    (hfits : e.frame.Fits) :
    ofJson (.object e.toFields) = .ok e := by
  have hperm := sortFields_perm e.nodup_keysOf_toFields
  unfold ofJson canonical
  rw [canonicalFields_eq_self fun _ => canonical_of_mem_toFields]
  dsimp only
  rw [typeNameOf_eq hperm, if_pos (any_kinds hknown)]
  exact ofFields_eq hknown hfits hperm

theorem listOfJson_eq {es : List Element} (hknown : ∀ e ∈ es, e.kind.isKnown)
    (hfits : ∀ e ∈ es, e.frame.Fits) (index : Nat) :
    listOfJson index (es.map fun e => .object e.toFields) = .ok es := by
  induction es generalizing index with
  | nil => rfl
  | cons e es ih =>
    rw [List.map_cons, listOfJson,
      ofJson_toFields (hknown e List.mem_cons_self) (hfits e List.mem_cons_self)]
    dsimp only
    rw [ih (fun d hd => hknown d (List.mem_cons_of_mem e hd))
      (fun d hd => hfits d (List.mem_cons_of_mem e hd))]
    rfl

end Element

end LabelPress
