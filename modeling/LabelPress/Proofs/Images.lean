import LabelPress.CommandLine.Run
import LabelPress.Proofs.ColumnMaps
import LabelPress.Proofs.TagReads

/-!
# Images and the programs that print them

Images are asked for before a template is compiled, and the compiler finds their bitmaps by the `id`
of their elements. An `id` may be used more than once, and any image may fail.

* `Renders`: the renderer has an image for an element, at the size of its frame.
* `getElem?_bitmapsBy`: under an `id` stands the bitmap of the last element that has one.
* `commands_image`: an image becomes one command, its bitmap or a remark.
* `imagesAgree`: **what is asked for, what is kept and what is printed agree**, and a failure
  concerns nothing else.
-/

namespace LabelPress

open LabelPress.Zpl

section Render

variable {ε : Type} (render : (src : String) → (width height : Nat) → Except ε Pixels)

/-! ## Bitmaps -/

/-- The element is an image with a source, and the renderer has `pixels` for it at the size of its
frame, one dot at least. -/
def Renders (dpi : Nat) (e : Element) (pixels : Pixels) : Prop :=
  ∃ image, e.kind = .image image ∧ image.src ≠ "" ∧
    render image.src (max 1 (mmToDots e.frame.width dpi)).toNat
      (max 1 (mmToDots e.frame.height dpi)).toNat = .ok pixels

/-- The bitmaps that are had from a renderer without effects. -/
def bitmapsBy (elements : List Element) (dpi : Nat) : Std.TreeMap String Bitmap :=
  Id.run (rasterizeImages render elements dpi)

/-- Their parameters, as a compilation needs them. -/
def cacheBy (elements : List Element) (dpi : Nat) : Std.TreeMap String String :=
  imageCache (bitmapsBy render elements dpi)

/-- The bitmap of an element. -/
def Element.bitmap? (dpi : Nat) (e : Element) : Option Bitmap :=
  (Template.imageOf? e).bind fun (frame, image) =>
    let request := ImageRequest.of dpi frame image
    (render request.src request.width request.height).toOption.map request.bitmap

/-- The bitmaps with that of one element more. -/
def addBitmap (dpi : Nat) (bitmaps : Std.TreeMap String Bitmap) (e : Element) :
    Std.TreeMap String Bitmap :=
  match e.bitmap? render dpi with
  | some bitmap => bitmaps.insert e.frame.id bitmap
  | none => bitmaps

variable {render} {dpi : Nat} {e : Element}

theorem Template.imageOf?_eq_some_iff {frame : Frame} {image : ImageElement} :
    Template.imageOf? e = some (frame, image) ↔
      frame = e.frame ∧ e.kind = .image image ∧ image.src ≠ "" := by
  unfold Template.imageOf?
  split
  · rename_i image' hk
    rw [hk]
    split_ifs with hsrc
    · simp only [ElementKind.image.injEq, false_iff, not_and]
      rintro - rfl
      exact not_not.2 hsrc
    · simp only [Option.some.injEq, Prod.mk.injEq, ElementKind.image.injEq]
      constructor
      · rintro ⟨rfl, rfl⟩
        exact ⟨rfl, rfl, hsrc⟩
      · rintro ⟨rfl, rfl, -⟩
        exact ⟨rfl, rfl⟩
  · rename_i hk
    simp only [reduceCtorEq, false_iff, not_and]
    exact fun _ himage => absurd himage (hk image)

theorem toOption_eq_some_iff {result : Except ε Pixels} {pixels : Pixels} :
    result.toOption = some pixels ↔ result = .ok pixels := by
  cases result <;> simp [Except.toOption]

theorem Element.bitmap?_eq_some_iff {bitmap : Bitmap} :
    e.bitmap? render dpi = some bitmap ↔ ∃ pixels, Renders render dpi e pixels ∧
      bitmap = .ofPixels (pixels.turn e.frame.orientation) := by
  simp only [bitmap?, Option.bind_eq_some_iff, Prod.exists, Template.imageOf?_eq_some_iff,
    Option.map_eq_some_iff, toOption_eq_some_iff]
  constructor
  · rintro ⟨_, image, ⟨rfl, hk, hsrc⟩, pixels, hrender, rfl⟩
    exact ⟨pixels, ⟨image, hk, hsrc, hrender⟩, rfl⟩
  · rintro ⟨pixels, ⟨image, hk, hsrc, hrender⟩, rfl⟩
    exact ⟨_, image, ⟨rfl, hk, hsrc⟩, pixels, hrender, rfl⟩

theorem Element.bitmap?_eq_none_iff :
    e.bitmap? render dpi = none ↔ ∀ pixels, ¬ Renders render dpi e pixels := by
  rw [Option.eq_none_iff_forall_ne_some]
  simp only [ne_eq, bitmap?_eq_some_iff, not_exists, not_and]
  exact ⟨fun h pixels hr => h _ pixels hr rfl, fun h _ pixels hr => absurd hr (h pixels)⟩

variable (render) in
/-- A request with its answer. -/
def answered (request : ImageRequest) : ImageRequest × Except ε Pixels :=
  (request, render request.src request.width request.height)

theorem bitmapsBy_eq_collectBitmaps (elements : List Element) :
    bitmapsBy render elements dpi =
      collectBitmaps ((imageRequests elements dpi).map (answered render)) := by
  have hmap : ∀ requests : List ImageRequest,
      requests.mapM (m := Id) (answered render) = requests.map (answered render) := by
    intro requests
    induction requests with
    | nil => rfl
    | cons request requests ih => rw [List.mapM_cons, ih]; rfl
  rw [← hmap]
  rfl

/-- The images of a template are asked for one by one. -/
theorem bitmapsBy_eq_foldl (elements : List Element) :
    bitmapsBy render elements dpi = elements.foldl (addBitmap render dpi) {} := by
  rw [bitmapsBy_eq_collectBitmaps, imageRequests, collectBitmaps, List.map_map, List.foldl_map,
    List.foldl_filterMap]
  congr 1
  funext bitmaps e
  unfold addBitmap Element.bitmap?
  cases hof : Template.imageOf? e with
  | none => rfl
  | some p =>
    obtain ⟨frame, image⟩ := p
    obtain ⟨rfl, -, -⟩ := Template.imageOf?_eq_some_iff.1 hof
    simp only [Function.comp_apply, Option.bind_some, answered]
    cases render (ImageRequest.of dpi e.frame image).src (ImageRequest.of dpi e.frame image).width
      (ImageRequest.of dpi e.frame image).height with
    | ok pixels => rfl
    | error fault => rfl

theorem getElem?_addBitmap (bitmaps : Std.TreeMap String Bitmap) (e : Element) (id : String) :
    (addBitmap render dpi bitmaps e)[id]? =
      ((if e.frame.id = id then e.bitmap? render dpi else none) <|> bitmaps[id]?) := by
  unfold addBitmap
  cases hb : e.bitmap? render dpi with
  | none => simp
  | some bitmap =>
    dsimp only
    rw [Std.TreeMap.getElem?_insert]
    by_cases hid : e.frame.id = id
    · simp [hid]
    · simp [hid]

/-- **Under an `id` stands the bitmap of the last element** with that `id` that has one. -/
theorem getElem?_bitmapsBy (elements : List Element) (id : String) :
    (bitmapsBy render elements dpi)[id]? =
      elements.reverse.findSome? fun e =>
        if e.frame.id = id then e.bitmap? render dpi else none := by
  rw [bitmapsBy_eq_foldl]
  exact getElem?_foldl (fun bitmaps e => getElem?_addBitmap bitmaps e id) elements

/-- The entry of an `id` belongs to the last of its elements that has an image. -/
theorem getElem?_cacheBy_eq_some_iff {elements : List Element} {id fragment : String} :
    (cacheBy render elements dpi)[id]? = some fragment ↔
      ∃ before e after pixels, elements = before ++ e :: after ∧ e.frame.id = id ∧
        Renders render dpi e pixels ∧
        fragment = (Bitmap.ofPixels (pixels.turn e.frame.orientation)).fragment ∧
        ∀ e' ∈ after, e'.frame.id = id → ∀ pixels', ¬ Renders render dpi e' pixels' := by
  have hlater : ∀ e' : Element, (if e'.frame.id = id then e'.bitmap? render dpi else none) = none ↔
      (e'.frame.id = id → ∀ pixels', ¬ Renders render dpi e' pixels') := by
    intro e'
    rw [← Element.bitmap?_eq_none_iff]
    split_ifs with hid <;> simp [hid]
  rw [cacheBy, imageCache, Std.TreeMap.getElem?_map, getElem?_bitmapsBy,
    Option.map_eq_some_iff]
  simp only [List.findSome?_eq_some_iff, hlater]
  constructor
  · rintro ⟨bitmap, ⟨later, e, earlier, hsplit, he, hnone⟩, rfl⟩
    split_ifs at he with hid
    obtain ⟨pixels, hr, rfl⟩ := Element.bitmap?_eq_some_iff.1 he
    refine ⟨earlier.reverse, e, later.reverse, pixels, ?_, hid, hr, rfl, ?_⟩
    · rw [← List.reverse_inj, hsplit]
      simp
    · exact fun e' he' => hnone e' (List.mem_reverse.1 he')
  · rintro ⟨before, e, after, pixels, rfl, hid, hr, rfl, hnone⟩
    refine ⟨_, ⟨after.reverse, e, before.reverse, by simp, ?_, ?_⟩, rfl⟩
    · rw [if_pos hid]
      exact Element.bitmap?_eq_some_iff.2 ⟨pixels, hr, rfl⟩
    · exact fun e' he' => hnone e' (List.mem_reverse.1 he')

theorem mem_cacheBy_iff {elements : List Element} {id : String} :
    id ∈ cacheBy render elements dpi ↔
      ∃ e ∈ elements, e.frame.id = id ∧ ∃ pixels, Renders render dpi e pixels := by
  rw [Std.TreeMap.mem_iff_isSome_getElem?, cacheBy, imageCache, Std.TreeMap.getElem?_map,
    getElem?_bitmapsBy, Option.isSome_map, List.isSome_findSome?, List.any_reverse,
    List.any_eq_true]
  refine exists_congr fun e => and_congr_right fun _ => ?_
  split_ifs with hid
  · rw [Option.isSome_iff_exists]
    simp only [Element.bitmap?_eq_some_iff, hid, true_and]
    exact ⟨fun ⟨_, pixels, hr, _⟩ => ⟨pixels, hr⟩, fun ⟨pixels, hr⟩ => ⟨_, pixels, hr, rfl⟩⟩
  · simp [hid]

/-- An element without an image changes nothing. -/
theorem cacheBy_of_not_renders {before after : List Element}
    (h : ∀ pixels, ¬ Renders render dpi e pixels) :
    cacheBy render (before ++ e :: after) dpi = cacheBy render (before ++ after) dpi := by
  have hskip : ∀ bitmaps, addBitmap render dpi bitmaps e = bitmaps := by
    intro bitmaps
    rw [addBitmap, Element.bitmap?_eq_none_iff.2 h]
  rw [cacheBy, cacheBy, bitmapsBy_eq_foldl, bitmapsBy_eq_foldl, List.foldl_append,
    List.foldl_cons, hskip, ← List.foldl_append]

/-- What an `id` stands for depends on the images of its own elements only. -/
theorem getElem?_cacheBy_of_agree {render' : String → Nat → Nat → Except ε Pixels}
    {elements : List Element} {id : String}
    (h : ∀ e ∈ elements, e.frame.id = id →
      ∀ pixels, Renders render dpi e pixels ↔ Renders render' dpi e pixels) {fragment : String}
    (hentry : (cacheBy render elements dpi)[id]? = some fragment) :
    (cacheBy render' elements dpi)[id]? = some fragment := by
  obtain ⟨before, e, after, pixels, rfl, hid, hr, rfl, hnone⟩ :=
    getElem?_cacheBy_eq_some_iff.1 hentry
  refine getElem?_cacheBy_eq_some_iff.2 ⟨before, e, after, pixels, rfl, hid, ?_, rfl, ?_⟩
  · exact (h e (by simp) hid pixels).1 hr
  · intro e' he' hid' pixels' hr'
    exact hnone e' he' hid' pixels' ((h e' (by simp [he']) hid' pixels').2 hr')

theorem fragment_ne_empty (b : Bitmap) : b.fragment ≠ "" := by
  intro h
  have hlength := congrArg String.length h
  simp [Bitmap.fragment, String.length_append] at hlength

theorem ne_empty_of_getElem?_cacheBy {elements : List Element} {id fragment : String}
    (h : (cacheBy render elements dpi)[id]? = some fragment) : fragment ≠ "" := by
  obtain ⟨_, _, _, _, -, -, -, rfl, -⟩ := getElem?_cacheBy_eq_some_iff.1 h
  exact fragment_ne_empty _

/-! ## Requests -/

variable (render) in
/-- The renderer, noting what it is asked for. -/
def noting (src : String) (width height : Nat) :
    StateM (List (String × Nat × Nat)) (Except ε Pixels) := do
  modify (· ++ [(src, width, height)])
  return render src width height

/-- Every image with a source is asked for once, in order, whatever became of those before. -/
theorem run_rasterizeImages_noting (elements : List Element)
    (asked : List (String × Nat × Nat)) :
    (rasterizeImages (noting render) elements dpi).run asked =
      (bitmapsBy render elements dpi, asked ++ (imageRequests elements dpi).map
        fun request => (request.src, request.width, request.height)) := by
  have hmapM : ∀ (requests : List ImageRequest) (asked : List (String × Nat × Nat)),
      (requests.mapM fun (request : ImageRequest) => do
        return (request, ← noting render request.src request.width request.height)).run asked =
      (requests.map (answered render),
        asked ++ requests.map fun request => (request.src, request.width, request.height)) := by
    intro requests
    induction requests with
    | nil =>
      intro asked
      rw [List.map_nil, List.map_nil, List.append_nil]
      rfl
    | cons request requests ih =>
      intro asked
      have htail := ih (asked ++ [(request.src, request.width, request.height)])
      rw [List.append_assoc] at htail
      rw [List.mapM_cons, List.map_cons, List.map_cons]
      exact congrArg (fun run => (answered render request :: run.1, run.2)) htail
  rw [bitmapsBy_eq_collectBitmaps, rasterizeImages, StateT.run_bind, hmapM]
  rfl

/-! ## Commands -/

/-- What is printed for an image: its bitmap, if it has a source and there is an entry for its `id`,
and otherwise a remark. -/
inductive PrintsImage (cache : Std.TreeMap String String) (dpi : Nat) (e : Element)
    (image : ImageElement) : Command → Prop where
  | bitmap {fragment : String} (hsrc : image.src ≠ "")
      (h : cache[e.frame.id]? = some fragment) :
      PrintsImage cache dpi e image
        (.graphicField (mmToDots e.frame.x dpi) (mmToDots e.frame.y dpi) fragment)
  | remark {text : String} (h : image.src = "" ∨ e.frame.id ∉ cache) :
      PrintsImage cache dpi e image (.comment text)

/-- An image is one command. -/
theorem commands_image {options : CompileOptions} {image : ImageElement}
    (hne : ∀ (id fragment : String), options.imageCache[id]? = some fragment → fragment ≠ "")
    (hk : e.kind = .image image) :
    ∃ c, e.commands dpi options = [c] ∧ PrintsImage options.imageCache dpi e image c := by
  refine ⟨image.command e.frame (e.frame.place dpi) options, by simp [Element.commands, hk], ?_⟩
  unfold ImageElement.command
  split_ifs with hsrc
  · exact .remark (.inl hsrc)
  · split
    · rename_i fragment hentry
      rw [if_neg (hne _ _ hentry)]
      exact .bitmap hsrc hentry
    · rename_i hnone
      exact .remark (.inr (by simp [Std.TreeMap.mem_iff_isSome_getElem?, hnone]))

variable (render) in
/-- What is asked for, what is kept and what is printed agree. -/
structure ImagesAgree (canvas : Canvas) (elements : List Element) : Prop where
  /-- There is an entry for an `id` if an image with a source could be had for one of its elements,
  hidden ones included. -/
  present : ∀ id, id ∈ cacheBy render elements canvas.dpi ↔
    ∃ e ∈ elements, e.frame.id = id ∧ ∃ pixels, Renders render canvas.dpi e pixels
  /-- The entry belongs to the last such element. -/
  entry : ∀ id fragment, (cacheBy render elements canvas.dpi)[id]? = some fragment ↔
    ∃ before e after pixels, elements = before ++ e :: after ∧ e.frame.id = id ∧
      Renders render canvas.dpi e pixels ∧
      fragment = (Bitmap.ofPixels (pixels.turn e.frame.orientation)).fragment ∧
      ∀ e' ∈ after, e'.frame.id = id → ∀ pixels', ¬ Renders render canvas.dpi e' pixels'
  not_empty : ∀ (id fragment : String),
    (cacheBy render elements canvas.dpi)[id]? = some fragment → fragment ≠ ""
  /-- A failure leaves no trace: the entries are as if the element were not there. -/
  failure : ∀ before e after, elements = before ++ e :: after →
    (∀ pixels, ¬ Renders render canvas.dpi e pixels) →
      cacheBy render elements canvas.dpi = cacheBy render (before ++ after) canvas.dpi
  /-- If other images fail, or do not fail any more, the entry of an `id` stays. -/
  isolated : ∀ (render' : String → Nat → Nat → Except ε Pixels) (id : String),
    (∀ e ∈ elements, e.frame.id = id →
      ∀ pixels, Renders render canvas.dpi e pixels ↔ Renders render' canvas.dpi e pixels) →
        (cacheBy render elements canvas.dpi)[id]? = (cacheBy render' elements canvas.dpi)[id]?
  /-- A failure does not keep later images from being asked for. -/
  asked : (Id.run ((rasterizeImages (noting render) elements canvas.dpi).run [])).2 =
    (imageRequests elements canvas.dpi).map
      fun request => (request.src, request.width, request.height)
  /-- Within the frame of the label a program has the commands of one element after the other. -/
  blocks : ∀ options : CompileOptions, ∃ front, (∀ c ∈ front, c.isFrame = true) ∧
    (compileProgram canvas elements options).commands =
      front ++ (printOrder elements).flatMap (·.commands canvas.dpi options) ++ [.endFormat]
  /-- They are the visible elements, each once; -/
  visible : (printOrder elements).Perm (elements.filter (·.frame.visible))
  /-- and every visible image is one command: its entry, or a remark if it has none. -/
  image : ∀ options : CompileOptions, options.imageCache = cacheBy render elements canvas.dpi →
    ∀ e ∈ elements, e.frame.visible = true → ∀ image, e.kind = .image image →
      ∃ c, e.commands canvas.dpi options = [c] ∧
        PrintsImage (cacheBy render elements canvas.dpi) canvas.dpi e image c
  /-- Without an image that has a source there are no entries. -/
  none_asked : (∀ e ∈ elements, ∀ image, e.kind = .image image → image.src = "") →
    bitmapsBy render elements canvas.dpi = {} ∧ cacheBy render elements canvas.dpi = {}

theorem imageRequests_eq_nil {elements : List Element}
    (h : ∀ e ∈ elements, ∀ image, e.kind = .image image → image.src = "") :
    imageRequests elements dpi = [] := by
  rw [imageRequests, List.map_eq_nil_iff, List.filterMap_eq_nil_iff]
  intro e he
  rw [Option.eq_none_iff_forall_ne_some]
  rintro ⟨frame, image⟩ hof
  obtain ⟨-, hk, hsrc⟩ := Template.imageOf?_eq_some_iff.1 hof
  exact hsrc (h e he image hk)

/-- **Images and the programs that print them agree**, whatever the renderer can provide; and to ask
for nothing, where no image has a source, is what asking for all of them comes to. -/
theorem imagesAgree (canvas : Canvas) (elements : List Element) :
    ImagesAgree render canvas elements ∧
      ∀ (m : Type → Type) [Monad m] [LawfulMonad m] (shell : CommandLine.Shell m) (t : Template),
        CommandLine.bitmapsOf shell t =
          rasterizeImages (renderSource shell.readFile) t.elements t.canvas.dpi := by
  constructor
  · constructor
    case present => exact fun id => mem_cacheBy_iff
    case entry => exact fun id fragment => getElem?_cacheBy_eq_some_iff
    case not_empty => exact fun id fragment => ne_empty_of_getElem?_cacheBy
    case failure =>
      rintro before e after rfl h
      exact cacheBy_of_not_renders h
    case isolated =>
      intro render' id h
      refine Option.ext fun fragment => ⟨getElem?_cacheBy_of_agree h, ?_⟩
      exact getElem?_cacheBy_of_agree fun e he hid pixels => (h e he hid pixels).symm
    case asked => rw [run_rasterizeImages_noting]; rfl
    case blocks => exact exists_front canvas elements
    case visible => exact printOrder_perm elements
    case image =>
      intro options hcache e _ _ image hk
      have hne : ∀ (id fragment : String), options.imageCache[id]? = some fragment →
          fragment ≠ "" := by
        rw [hcache]
        exact fun _ _ => ne_empty_of_getElem?_cacheBy
      have hcommand : ∃ c, e.commands canvas.dpi options = [c] ∧
          PrintsImage options.imageCache canvas.dpi e image c := commands_image hne hk
      rw [hcache] at hcommand
      exact hcommand
    case none_asked =>
      intro h
      have hempty : bitmapsBy render elements canvas.dpi = {} := by
        rw [bitmapsBy_eq_collectBitmaps, imageRequests_eq_nil h]
        rfl
      rw [cacheBy, hempty]
      exact ⟨rfl, rfl⟩
  · intro m _ _ shell t
    unfold CommandLine.bitmapsOf
    split_ifs with hnone
    · have hnil : imageRequests t.elements t.canvas.dpi = [] := by
        rw [imageRequests, ← Template.images, hnone, List.map_nil]
      rw [rasterizeImages, hnil, List.mapM_nil, pure_bind]
      rfl
    · rfl

end Render

end LabelPress
