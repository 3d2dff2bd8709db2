import LabelPress.Proofs.JsonTokens
import LabelPress.Template.Json

/-!
# Integers of a template that was read

The resolution and the layers of a template that was read fit their types, whatever the text: no
other integer gets past a reader.

* `Ensures`: a property of everything that a reader reads; `ensures_foldFields` carries it over
  the fields of an object, `setFields_keeps` over the fields of an element.
* `Template.fits_of_parse`: **a template that was read fits its types**, and its canvas is valid.
-/

namespace LabelPress

open LabelPress.Number Json Json.Reader

/-! ## What a reader ensures -/

namespace Json.Reader

variable {α β σ : Type} {post : α → Prop}

/-- Whatever the reader reads has the property. -/
def Ensures (reader : Reader α) (post : α → Prop) : Prop :=
  ∀ s a t, reader s = .ok (a, t) → post a

theorem ensures_true (reader : Reader α) : Ensures reader fun _ => True :=
  fun _ _ _ _ => trivial

theorem ensures_throw (fault : Fault) (post : α → Prop) : Ensures (throw fault) post :=
  fun _ _ _ h => nomatch h

theorem ensures_pure {a : α} (h : post a) : Ensures (pure a) post := by
  intro s b t hread
  cases hread
  exact h

theorem Ensures.bind {reader : Reader α} {next : α → Reader β} {post' : β → Prop}
    (h : Ensures reader post) (hnext : ∀ a, post a → Ensures (next a) post') :
    Ensures (reader >>= next) post' := by
  intro s b u hread
  obtain ⟨⟨a, t⟩, ha, hb⟩ := bind_eq_ok_iff.1 hread
  exact hnext a (h s a t ha) t b u hb

theorem ensures_lift {x : Except Fault α} (h : ∀ a, x = .ok a → post a) :
    Ensures (liftM x : Reader α) post := by
  intro s a t hread
  obtain ⟨b, hx, hb⟩ := bind_eq_ok_iff.1 hread
  cases hb
  exact h _ hx

theorem ensures_unexpected (expected : Expected) (post : α → Prop) :
    Ensures (unexpected expected) post := by
  refine (ensures_true peek).bind fun c _ => ?_
  cases c with
  | none => exact ensures_throw _ _
  | some c =>
    dsimp only
    split_ifs
    · exact ensures_throw _ _
    · exact ensures_throw _ _
    · exact (ensures_true _).bind fun _ _ => ensures_throw _ _

theorem ensures_numberFor {expected : Expected} {ofNumber : Json → Except Fault α}
    (h : ∀ j a, ofNumber j = .ok a → post a) : Ensures (numberFor expected ofNumber) post := by
  refine (ensures_true peekValue).bind fun c _ => ?_
  split_ifs
  · exact (ensures_true number).bind fun j _ => ensures_lift (h j)
  · exact ensures_unexpected _ _

theorem ensures_descend {depth : Nat} {body : Nat → Reader α}
    (h : ∀ depth, Ensures (body depth) post) : Ensures (descend depth body) post := by
  cases depth with
  | zero => exact ensures_throw _ _
  | succ depth => exact (ensures_true advance).bind fun _ _ => h depth

/-- What every step keeps is kept by all fields. -/
theorem ensures_foldFields {step : σ → String → Reader σ} {inv : σ → Prop}
    (hstep : ∀ state key, inv state → Ensures (step state key) inv) (fuel : Nat) (first : Bool)
    {state : σ} (hstate : inv state) : Ensures (foldFields step fuel first state) inv := by
  induction fuel generalizing first state with
  | zero => exact ensures_throw _ _
  | succ fuel ih =>
    refine (ensures_true (nextKey? first)).bind fun key _ => ?_
    cases key with
    | none => exact ensures_pure hstate
    | some key => exact (hstep state key hstate).bind fun next hnext => ih false hnext

end Json.Reader

/-! ## Integers that were read -/

namespace Canvas

/-- The greatest resolution that can be read. -/
def maxDpi : Nat := 0xffffffff

theorem le_maxDpi_of_asNat32 {j : Json} {n : Nat} (h : asNat32 j = .ok n) : n ≤ maxDpi := by
  unfold asNat32 at h
  split at h
  · split_ifs at h with hrange
    cases h
    unfold maxDpi
    omega
  · cases h

theorem ensures_once {α β : Type} {post : β → Prop} {item : Reader β} (key : String)
    (before : Option α) (h : Ensures item post) : Ensures (once key before item) post := by
  unfold once
  dsimp only
  split_ifs
  · exact (ensures_throw _ fun _ => False).bind fun _ hfalse => hfalse.elim
  · exact (ensures_true colon).bind fun _ _ => h

theorem ensures_readDpi : Ensures readDpi (· ≤ maxDpi) :=
  ensures_numberFor fun _ _ => le_maxDpi_of_asNat32

/-- The resolution, if it was read, fits its type. -/
def Draft.Fits (p : Draft) : Prop := ∀ dpi ∈ p.dpi, dpi ≤ maxDpi

theorem Draft.fits_empty : Draft.Fits {} := by
  intro dpi hdpi
  cases hdpi

theorem ensures_step {p : Draft} (key : String) (hp : p.Fits) :
    Ensures (step p key) Draft.Fits := by
  unfold step
  split
  · exact (ensures_true _).bind fun _ _ => ensures_pure hp
  · exact (ensures_true _).bind fun _ _ => ensures_pure hp
  · refine (ensures_once _ _ ensures_readDpi).bind fun dpi hdpi => ensures_pure ?_
    intro n hn
    cases hn
    exact hdpi
  · exact (ensures_true _).bind fun _ _ => ensures_pure hp
  · exact (ensures_true _).bind fun _ _ => (ensures_true _).bind fun _ _ => ensures_pure hp

theorem Draft.Fits.finish {p : Draft} (hp : p.Fits) {c : Canvas} (h : p.finish = .ok c) :
    c.dpi ≤ maxDpi := by
  unfold Draft.finish at h
  split at h
  · cases h
  · cases h
  · cases h
    cases hdpi : p.dpi with
    | none => exact (by decide : defaultDpi ≤ maxDpi)
    | some dpi => exact hp dpi hdpi

theorem ensures_listed {α : Type} {post : α → Prop} {item : Reader α} (first : Bool)
    (h : Ensures item post) : Ensures (listed first item) fun a? => ∀ a ∈ a?, post a := by
  refine (ensures_true (hasItem first)).bind fun more _ => ?_
  split_ifs
  · refine h.bind fun a ha => ensures_pure ?_
    rintro _ ⟨⟩
    exact ha
  · exact ensures_pure nofun

theorem ensures_readList : Ensures readList (·.dpi ≤ maxDpi) := by
  refine (ensures_true _).bind fun width _ => ?_
  cases width with
  | none => exact ensures_throw _ _
  | some width =>
    refine (ensures_true _).bind fun height _ => ?_
    cases height with
    | none => exact ensures_throw _ _
    | some height =>
      refine (ensures_listed false ensures_readDpi).bind fun dpi hdpi => ?_
      refine (ensures_true _).bind fun colour _ => (ensures_true _).bind fun _ _ => ?_
      have hfits : Draft.Fits { width, height, dpi, backgroundColor := colour } := hdpi
      exact ensures_lift fun c hc => hfits.finish hc

theorem ensures_readObject : Ensures readObject (·.dpi ≤ maxDpi) := by
  refine (ensures_true _).bind fun s _ => ?_
  have hfold := fun fuel => ensures_foldFields (fun _ key hp => ensures_step key hp) fuel true
    Draft.fits_empty
  refine (hfold _).bind fun p hp => ?_
  refine (ensures_lift fun c hc => hp.finish hc).bind fun c hc => ?_
  exact (ensures_true _).bind fun _ _ => ensures_pure hc

theorem ensures_read (depth : Nat) : Ensures (read depth) (·.dpi ≤ maxDpi) := by
  refine (ensures_true _).bind fun c _ => ?_
  split_ifs
  · exact ensures_descend fun _ => ensures_readList
  · exact ensures_descend fun _ => ensures_readObject
  · exact ensures_unexpected _ _

end Canvas

theorem Json.int32_of_asInt32 {j : Json} {n : Int} (h : asInt32 j = .ok n) :
    int32Min ≤ n ∧ n ≤ int32Max := by
  unfold asInt32 at h
  split at h
  · split_ifs at h with hrange
    cases h
    exact hrange
  · cases h

/-- What setting a field keeps is kept by all fields. -/
theorem Json.setFields_keeps {σ : Type} {set : σ → String → Json → Option (Except Fault σ)}
    {inv : σ → Prop}
    (hset : ∀ state key value next, inv state → set state key value = some (.ok next) → inv next)
    {fields : List (String × Json)} {state final : σ} {seen seen' : List String}
    (hstate : inv state) (h : setFields set fields state seen = .ok (final, seen')) :
    inv final := by
  induction fields generalizing state seen with
  | nil =>
    cases h
    exact hstate
  | cons field fields ih =>
    obtain ⟨key, value⟩ := field
    unfold setFields at h
    split at h
    · exact ih hstate h
    · rename_i result hresult
      split_ifs at h
      obtain ⟨next, rfl, hrest⟩ := bind_eq_ok_iff.1 h
      exact ih (hset state key value next hstate hresult) hrest

namespace Frame

/-- The layer fits its type. -/
def Fits (f : Frame) : Prop := int32Min ≤ f.zIndex ∧ f.zIndex ≤ int32Max

theorem Fits.set {f next : Frame} (hf : f.Fits) {key : String} {value : Json}
    (h : f.set key value = some (.ok next)) : next.Fits := by
  unfold Frame.set at h
  split at h
  -- the layer itself
  case h_8 =>
    obtain ⟨z, hz, hnext⟩ := bind_eq_ok_iff.1 (Option.some.inj h)
    cases hnext
    exact int32_of_asInt32 hz
  -- no key of a frame
  case h_10 => cases h
  all_goals
    obtain ⟨_, -, hnext⟩ := bind_eq_ok_iff.1 (Option.some.inj h)
    cases hnext
    exact hf

theorem fits_default : Fits {} := by
  unfold Fits
  decide

theorem fits_of_ofFields {fields : List (String × Json)} {f : Frame} (h : ofFields fields = .ok f) :
    f.Fits := by
  obtain ⟨⟨frame, seen⟩, hset, hrest⟩ := bind_eq_ok_iff.1 h
  dsimp only at hrest
  split_ifs at hrest
  cases hrest
  exact setFields_keeps (fun _ _ _ _ hf hset => Fits.set hf hset) fits_default hset

end Frame

namespace Element

theorem fits_of_ofJson {j : Json} {e : Element} (h : ofJson j = .ok e) : e.frame.Fits := by
  unfold ofJson at h
  split at h
  · split_ifs at h
    · obtain ⟨frame, hframe, h⟩ := bind_eq_ok_iff.1 h
      obtain ⟨kind, -, h⟩ := bind_eq_ok_iff.1 h
      cases h
      exact Frame.fits_of_ofFields hframe
    · obtain ⟨frame, hframe, h⟩ := bind_eq_ok_iff.1 h
      cases h
      exact Frame.fits_of_ofFields hframe
  · cases h

theorem fits_of_listOfJson {values : List Json} {index : Nat} {es : List Element}
    (h : listOfJson index values = .ok es) : ∀ e ∈ es, e.frame.Fits := by
  induction values generalizing index es with
  | nil =>
    cases h
    exact List.forall_mem_nil _
  | cons value values ih =>
    unfold listOfJson at h
    split at h
    · rename_i e he
      cases hrest : listOfJson (index + 1) values with
      | error fault => rw [hrest] at h; cases h
      | ok rest =>
        rw [hrest] at h
        cases h
        exact List.forall_mem_cons.2 ⟨fits_of_ofJson he, ih hrest⟩
    · cases h

end Element

namespace Template

/-- The integers of a template fit their types. -/
structure Fits (t : Template) : Prop where
  dpi : t.canvas.dpi ≤ Canvas.maxDpi
  frames : ∀ e ∈ t.elements, e.frame.Fits

theorem ensures_readElements (depth : Nat) :
    Ensures (readElements depth) fun es => ∀ e ∈ es, e.frame.Fits :=
  (ensures_true _).bind fun _ _ => ensures_lift fun _ h => Element.fits_of_listOfJson h

/-- What was read so far fits its types. -/
structure Draft.Fits (p : Draft) : Prop where
  dpi : ∀ c ∈ p.canvas, c.dpi ≤ Canvas.maxDpi
  frames : ∀ es ∈ p.elements, ∀ e ∈ es, e.frame.Fits

theorem ensures_step (depth : Nat) {p : Draft} (key : String) (hp : p.Fits) :
    Ensures (step depth p key) Draft.Fits := by
  unfold step
  split
  · refine (Canvas.ensures_once _ _ (Canvas.ensures_read depth)).bind fun c hc => ensures_pure ?_
    refine ⟨?_, hp.frames⟩
    rintro _ ⟨⟩
    exact hc
  · refine (Canvas.ensures_once _ _ (ensures_readElements depth)).bind fun es hes => ensures_pure ?_
    refine ⟨hp.dpi, ?_⟩
    rintro _ ⟨⟩
    exact hes
  · exact (ensures_true _).bind fun _ _ => (ensures_true _).bind fun _ _ => ensures_pure hp

theorem forall_mem_getD {α : Type} {holds : α → Prop} {xs? : Option (List α)}
    (h : ∀ xs ∈ xs?, ∀ x ∈ xs, holds x) : ∀ x ∈ xs?.getD [], holds x := by
  cases xs? with
  | none => exact nofun
  | some xs => exact h xs rfl

theorem Draft.Fits.finish {p : Draft} (hp : p.Fits) {t : Template} (h : p.finish = .ok t) :
    t.Fits := by
  unfold Draft.finish at h
  split at h
  · cases h
  · rename_i c hc
    cases h
    exact ⟨hp.dpi c hc, forall_mem_getD hp.frames⟩

theorem ensures_readList (depth : Nat) : Ensures (readList depth) Fits := by
  refine (Canvas.ensures_listed true (Canvas.ensures_read depth)).bind fun c hc => ?_
  cases c with
  | none => exact ensures_throw _ _
  | some c =>
    refine (Canvas.ensures_listed false (ensures_readElements depth)).bind fun es hes => ?_
    exact (ensures_true _).bind fun _ _ => ensures_pure ⟨hc c rfl, forall_mem_getD hes⟩

theorem ensures_readObject (depth : Nat) : Ensures (readObject depth) Fits := by
  refine (ensures_true _).bind fun s _ => ?_
  have hfold := fun fuel => ensures_foldFields (fun _ key hp => ensures_step depth key hp) fuel true
    (⟨nofun, nofun⟩ : Draft.Fits {})
  refine (hfold _).bind fun p hp => ?_
  refine (ensures_lift fun t ht => hp.finish ht).bind fun t ht => ?_
  exact (ensures_true _).bind fun _ _ => ensures_pure ht

theorem ensures_read : Ensures read Fits := by
  refine (ensures_true _).bind fun c _ => ?_
  split_ifs
  · exact ensures_descend ensures_readList
  · exact ensures_descend ensures_readObject
  · exact ensures_unexpected _ _

/-- A template that was read fits its types, and its canvas is valid. -/
theorem fits_of_parse {s : String} {t : Template} (h : parse s = .ok t) :
    t.Fits ∧ t.canvas.check = .ok () := by
  unfold parse at h
  split at h
  · cases h
  · rename_i t' hrun
    split at h
    · cases h
    · rename_i hcheck
      cases h
      obtain ⟨⟨u, rest⟩, hread, hrest⟩ := bind_eq_ok_iff.1 hrun
      dsimp only at hrest
      split_ifs at hrest
      cases hrest
      exact ⟨ensures_read _ _ _ hread, hcheck⟩

end Template

end LabelPress
