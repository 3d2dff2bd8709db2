import LabelPress.Proofs.FilePaths
import LabelPress.Proofs.Images
import Mathlib.Data.List.Forall2
import Mathlib.Data.List.Nodup

/-!
# Previews of images

The preview of an image is a file that is named for the `id` of its element. Characters that a name
does not take become underscores in it, so two images may have one name. The bitmaps are saved one
after another, and the order is up to the map that they are kept in.

* `Alike`: two ids differ in nothing that a name shows.
* `Saves`: previews are saved one after another.
* `Saves.lookup_last`: of the images with one name the last one saved stays.
* `keepsPreviews`: **each image keeps a preview of its own as long as no two ids are alike**, and
  then the order is of no matter.
-/

namespace LabelPress.CommandLine

open LabelPress.Text

/-! ## Names -/

section Names

variable {c d : Char} {id id' : String}

/-- In a name an underscore stands for the character. -/
def Blotted (c : Char) : Prop :=
  isAlphanumeric c = false ∧ c ≠ '-'

/-- Ids that differ, if at all, in characters for which underscores stand. -/
def Alike (id id' : String) : Prop :=
  List.Forall₂ (fun c d => c = d ∨ Blotted c ∧ Blotted d) id.toList id'.toList

theorem blotted_underscore : Blotted '_' :=
  ⟨by decide +kernel, by decide⟩

theorem blotted_slash : Blotted '/' :=
  ⟨by decide +kernel, by decide⟩

theorem previewChar_of_blotted (h : Blotted c) : previewChar c = '_' := by
  unfold previewChar
  rw [h.1, Bool.false_or, decide_eq_false h.2, Bool.false_or]
  split
  · rename_i hc
    exact of_decide_eq_true hc
  · rfl

theorem previewChar_of_not_blotted (h : ¬ Blotted c) : previewChar c = c := by
  have hkept : isAlphanumeric c = true ∨ c = '-' := by
    simpa [Blotted, imp_iff_not_or] using h
  unfold previewChar
  rcases hkept with hkept | hkept <;> simp [hkept]

theorem previewChar_eq_iff : previewChar c = previewChar d ↔ c = d ∨ Blotted c ∧ Blotted d := by
  constructor
  · intro h
    by_cases hc : Blotted c
    · by_cases hd : Blotted d
      · exact .inr ⟨hc, hd⟩
      · rw [previewChar_of_blotted hc, previewChar_of_not_blotted hd] at h
        exact absurd (h ▸ blotted_underscore) hd
    · by_cases hd : Blotted d
      · rw [previewChar_of_not_blotted hc, previewChar_of_blotted hd] at h
        exact absurd (h ▸ blotted_underscore) hc
      · rw [previewChar_of_not_blotted hc, previewChar_of_not_blotted hd] at h
        exact .inl h
  · rintro (rfl | ⟨hc, hd⟩)
    · rfl
    · rw [previewChar_of_blotted hc, previewChar_of_blotted hd]

theorem toList_previewName (id : String) :
    (previewName id).toList = id.toList.map previewChar ++ ['.', 'p', 'n', 'g'] := by
  simp [previewName]

/-- Two images have one name exactly if their ids are alike. -/
theorem previewName_eq_iff : previewName id = previewName id' ↔ Alike id id' := by
  rw [← String.toList_inj, toList_previewName, toList_previewName, List.append_left_inj,
    ← List.forall₂_eq_eq_eq, List.forall₂_map_left_iff, List.forall₂_map_right_iff]
  simp only [previewChar_eq_iff]
  rfl

theorem previewName_eq_suffix_iff : previewName id = ".png" ↔ id = "" := by
  rw [← String.toList_inj, toList_previewName]
  show _ = ['.', 'p', 'n', 'g'] ↔ _
  simp

theorem isFileName_previewName (id : String) : IsFileName (previewName id) := by
  have hlong : ∀ short : String, short.toList.length < 4 → previewName id ≠ short := by
    rintro short hshort rfl
    simp [toList_previewName] at hshort
  refine ⟨?_, hlong "" (by decide), hlong "." (by decide), hlong ".." (by decide)⟩
  rw [toList_previewName]
  intro hslash
  rcases List.mem_append.1 hslash with hslash | hslash
  · obtain ⟨c, -, hc⟩ := List.mem_map.1 hslash
    by_cases hblot : Blotted c
    · rw [previewChar_of_blotted hblot] at hc
      exact absurd hc (by decide)
    · rw [previewChar_of_not_blotted hblot] at hc
      exact hblot (hc ▸ blotted_slash)
  · exact absurd hslash (by decide)

end Names

/-! ## Saving -/

/-- The path of the preview for an element. -/
def previewPath (directory id : String) : String :=
  joinPath directory (previewName id)

/-- The bytes of the preview for a bitmap. -/
def previewFile (bitmap : Bitmap) : List UInt8 :=
  Png.encodeGray bitmap.width bitmap.height bitmap.gray.toList

/-- Writes the previews of images in an order. -/
def saveInOrder {m : Type → Type} [Monad m] (shell : Shell m) (directory : String)
    (order : List (String × Bitmap)) : ExceptT LabelError m Unit := do
  match ← shell.createDirectory directory with
  | .error fault => throw (.file none fault)
  | .ok () => order.forM fun (id, bitmap) => savePreview shell directory id bitmap

/-- The previews are written in the order of the map. -/
theorem savePreviews_eq_saveInOrder {m : Type → Type} [Monad m] (shell : Shell m)
    (directory : String) (bitmaps : Std.TreeMap String Bitmap) :
    savePreviews shell directory bitmaps = saveInOrder shell directory bitmaps.toList :=
  rfl

/-- A session in which a preview was written at a place. -/
def Session.preview (session : Session) (directory id : String) (place : Location)
    (bitmap : Bitmap) : Session :=
  { session with
    files := session.files.put place (previewFile bitmap)
    reports := session.reports ++ ["Saved preview " ++ previewPath directory id] }

/-- The previews of images are saved one after another. -/
inductive Saves (directory : String) : Session → List (String × Bitmap) → Session → Prop
  | nil (session : Session) : Saves directory session [] session
  | cons {session after : Session} {id : String} {bitmap : Bitmap} {place : Location}
      {images : List (String × Bitmap)} (hid : id ≠ "")
      (hslot : session.files.Slot directory (previewName id) place)
      (hrest : Saves directory (session.preview directory id place bitmap) images after) :
      Saves directory session ((id, bitmap) :: images) after

/-- The preview for an element can be saved. -/
def Savable (tree : FileTree) (directory id : String) : Prop :=
  id ≠ "" ∧ ∃ place, tree.Slot directory (previewName id) place

section Saving

open FileTree (slot_put lookup_put_of_ne write_joinPath_iff read_joinPath_iff)

variable {session after : Session} {directory id : String} {bitmap : Bitmap} {place : Location}
  {images before behind : List (String × Bitmap)}

theorem run_savePreview_eq_ok_iff :
    (savePreview Shell.memory directory id bitmap).run.run session = (.ok (), after) ↔
      id ≠ "" ∧ ∃ place, session.files.Slot directory (previewName id) place ∧
        after = session.preview directory id place bitmap := by
  unfold savePreview
  by_cases hid : id = ""
  · refine iff_of_false ?_ (fun h => h.1 hid)
    simp only [if_pos (previewName_eq_suffix_iff.2 hid)]
    intro h
    cases h
  · simp only [if_neg (mt previewName_eq_suffix_iff.1 hid), run_bind_eq_ok_iff, run_lift_eq_ok_iff]
    constructor
    · intro ⟨answer, between, hwrite, hreport⟩
      cases answer with
      | error fault => cases hreport
      | ok _ =>
        obtain ⟨files, hfiles, hbetween⟩ := run_writeFile_eq_ok_iff.1 hwrite
        obtain ⟨place, hslot, hput⟩ := (write_joinPath_iff (isFileName_previewName id)).1 hfiles
        subst hbetween
        subst hput
        cases hreport
        exact ⟨hid, place, hslot, rfl⟩
    · intro ⟨_, place, hslot, hafter⟩
      have hfiles : session.files.write (joinPath directory (previewName id))
          (previewFile bitmap) = .ok (session.files.put place (previewFile bitmap)) :=
        (write_joinPath_iff (isFileName_previewName id)).2 ⟨place, hslot, rfl⟩
      subst hafter
      exact ⟨_, _, run_writeFile_eq_ok_iff.2 ⟨_, hfiles, rfl⟩, rfl⟩

/-- A run that saves images does nothing else. -/
theorem run_forM_savePreview_eq_ok_iff :
    (images.forM fun (id, bitmap) =>
        savePreview Shell.memory directory id bitmap).run.run session = (.ok (), after) ↔
      Saves directory session images after := by
  induction images generalizing session with
  | nil =>
    constructor
    · intro h
      cases h
      exact .nil _
    · intro h
      cases h
      rfl
  | cons image images ih =>
    obtain ⟨id, bitmap⟩ := image
    show (savePreview Shell.memory directory id bitmap >>= fun _ => images.forM _).run.run
      session = _ ↔ _
    rw [run_bind_eq_ok_iff]
    constructor
    · intro ⟨_, between, hsave, hrest⟩
      obtain ⟨hid, place, hslot, hbetween⟩ := run_savePreview_eq_ok_iff.1 hsave
      subst hbetween
      exact .cons hid hslot (ih.1 hrest)
    · intro h
      cases h with
      | cons hid hslot hrest =>
        exact ⟨(), _, run_savePreview_eq_ok_iff.2 ⟨hid, _, hslot, rfl⟩, ih.2 hrest⟩

/-- Images are saved in an order once their directory is there. -/
theorem run_saveInOrder_eq_ok_iff :
    (saveInOrder Shell.memory directory images).run.run session = (.ok (), after) ↔
      ∃ files, session.files.createDirectory directory = .ok files ∧
        Saves directory { session with files } images after := by
  unfold saveInOrder
  rw [run_bind_eq_ok_iff]
  simp only [run_lift_eq_ok_iff]
  constructor
  · intro ⟨answer, between, hcreate, hrest⟩
    cases answer with
    | error fault => cases hrest
    | ok _ =>
      obtain ⟨files, hfiles, hbetween⟩ := run_createDirectory_eq_ok_iff.1 hcreate
      subst hbetween
      exact ⟨files, hfiles, run_forM_savePreview_eq_ok_iff.1 hrest⟩
  · intro ⟨files, hfiles, hsaves⟩
    exact ⟨.ok (), _, run_createDirectory_eq_ok_iff.2 ⟨files, hfiles, rfl⟩,
      run_forM_savePreview_eq_ok_iff.2 hsaves⟩

theorem exists_saves_iff : (∃ after, Saves directory session images after) ↔
    ∀ image ∈ images, Savable session.files directory image.1 := by
  induction images generalizing session with
  | nil => exact iff_of_true ⟨session, .nil session⟩ nofun
  | cons image images ih =>
    obtain ⟨id, bitmap⟩ := image
    rw [List.forall_mem_cons]
    constructor
    · intro ⟨after, h⟩
      cases h with
      | @cons _ _ _ _ place _ hid hslot hrest =>
        have htail := ih.1 ⟨after, hrest⟩
        simp only [Savable, Session.preview, slot_put] at htail
        exact ⟨⟨hid, place, hslot⟩, htail⟩
    · intro ⟨⟨hid, place, hslot⟩, htail⟩
      have hsavable : ∀ image ∈ images,
          Savable (session.preview directory id place bitmap).files directory image.1 := by
        simp only [Savable, Session.preview, slot_put]
        exact htail
      obtain ⟨after, hrest⟩ := ih.2 hsavable
      exact ⟨after, .cons hid hslot hrest⟩

/-- Saving moves no place. -/
theorem Saves.slot_iff {name : String} (h : Saves directory session images after) :
    after.files.Slot directory name place ↔ session.files.Slot directory name place := by
  induction h with
  | nil session => rfl
  | cons hid hslot hrest ih => exact ih.trans slot_put

/-- A file that stands in the place of no image stays. -/
theorem Saves.lookup_of_not_slot (h : Saves directory session images after)
    (hplace : ∀ image ∈ images, ¬ session.files.Slot directory (previewName image.1) place) :
    after.files.files.lookup place = session.files.files.lookup place := by
  induction h with
  | nil session => rfl
  | cons hid hslot hrest ih =>
    rw [List.forall_mem_cons] at hplace
    rw [ih fun image himage hslot' => hplace.2 image himage (slot_put.1 hslot')]
    refine lookup_put_of_ne ?_
    rintro rfl
    exact hplace.1 hslot

/-- Of the images with one name, the one that is saved last stays. -/
theorem Saves.lookup_last (h : Saves directory session (before ++ (id, bitmap) :: behind) after)
    (hbehind : ∀ image ∈ behind, previewName image.1 ≠ previewName id)
    (hslot : session.files.Slot directory (previewName id) place) :
    after.files.files.lookup place = some (previewFile bitmap) := by
  induction before generalizing session with
  | nil =>
    cases h with
    | @cons _ _ _ _ place' _ hid hslot' hrest =>
      have hplace : place = place' := (hslot.place_eq_iff hslot').2 rfl
      rw [hrest.lookup_of_not_slot, hplace]
      · exact FileTree.lookup_put ..
      · intro image himage hother
        exact hbehind image himage (((slot_put.1 hother).place_eq_iff hslot).1 rfl)
  | cons image before ih =>
    cases h with
    | cons hid hslot' hrest => exact ih hrest (slot_put.2 hslot)

/-- In the place of a name stands the preview of an image with that name. -/
theorem Saves.exists_lookup (h : Saves directory session images after)
    (hname : ∃ image ∈ images, previewName image.1 = previewName id)
    (hslot : session.files.Slot directory (previewName id) place) :
    ∃ image ∈ images, previewName image.1 = previewName id ∧
      after.files.files.lookup place = some (previewFile image.2) := by
  induction h with
  | nil session =>
    obtain ⟨_, hmem, _⟩ := hname
    cases hmem
  | @cons session after first bitmap _ images hid hslot' hrest ih =>
    by_cases htail : ∃ image ∈ images, previewName image.1 = previewName id
    · obtain ⟨image, himage, hname, hlookup⟩ := ih htail (slot_put.2 hslot)
      exact ⟨image, List.mem_cons_of_mem _ himage, hname, hlookup⟩
    · have hfirst : previewName first = previewName id := by
        obtain ⟨image, himage, hname⟩ := hname
        rcases List.mem_cons.1 himage with rfl | himage
        · exact hname
        · exact absurd ⟨image, himage, hname⟩ htail
      refine ⟨(first, bitmap), List.mem_cons_self, hfirst, ?_⟩
      have hall : Saves directory session ([] ++ (first, bitmap) :: images) after :=
        .cons hid hslot' hrest
      refine hall.lookup_last ?_ (hfirst ▸ hslot)
      intro image himage hname
      exact htail ⟨image, himage, hname.trans hfirst⟩

end Saving

/-! ## Commands -/

section Commands

variable {session after : Session} {directory : String}

/-- The image of a source, where files are read from a tree. -/
def renderIn (files : FileTree) (src : String) (width height : Nat) : Except ImageFault Pixels :=
  Id.run (renderSource (fun path => files.read path) src width height)

theorem run_loadSource (session : Session) (src : String) :
    (loadSource Shell.memory.readFile src).run session =
      (Id.run (loadSource (fun path => session.files.read path) src), session) := by
  unfold loadSource
  split_ifs
  · rfl
  · rfl
  · rw [StateT.run_bind, run_readFile]
    cases h : session.files.read src <;> simp only [h] <;> rfl

theorem run_renderSource (session : Session) (src : String) (width height : Nat) :
    (renderSource Shell.memory.readFile src width height).run session =
      (renderIn session.files src width height, session) := by
  unfold renderIn renderSource
  rw [StateT.run_bind, run_loadSource]
  cases h : Id.run (loadSource (fun path => session.files.read path) src) <;>
    simp only [Id.run_bind, h] <;> rfl

/-- The images of a template are read, and nothing is changed. -/
theorem run_bitmapsOf (session : Session) (template : Template) :
    (bitmapsOf Shell.memory template).run session =
      (bitmapsBy (renderIn session.files) template.elements template.canvas.dpi, session) := by
  rw [bitmapsBy_eq_collectBitmaps]
  unfold bitmapsOf
  split_ifs with himages
  · have hnone : imageRequests template.elements template.canvas.dpi = [] := by
      rw [imageRequests, List.map_eq_nil_iff]
      exact himages
    rw [hnone]
    rfl
  · rw [rasterizeImages, StateT.run_bind]
    have hanswer : ∀ request : ImageRequest,
        (do return (request, ← renderSource Shell.memory.readFile request.src request.width
          request.height) : StateM Session _).run session =
            (answered (renderIn session.files) request, session) := by
      intro request
      rw [StateT.run_bind, run_renderSource]
      rfl
    rw [run_mapM hanswer]
    rfl

/-- From memory a command reaches no printer, and besides the previews it writes its document. -/
theorem run_runCompile_eq_ok_iff {settings : CompileSettings} {template : Template}
    (hpreviews : settings.previews = some directory)
    (hload : (loadTemplate Shell.memory settings.template settings.printer).run.run session =
      (.ok template, session)) :
    let bitmaps := bitmapsBy (renderIn session.files) template.elements template.canvas.dpi
    let document := template.compile
      { placeholders := !settings.literal, imageCache := imageCache bitmaps }
    (runCompile Shell.memory settings).run.run session = (.ok (), after) ↔
      settings.destination.send = none ∧ ∃ saved,
        (saveInOrder Shell.memory directory bitmaps.toList).run.run session = (.ok (), saved) ∧
        (writeOutput Shell.memory settings.destination.output document).run.run saved =
          (.ok (), after) := by
  intro bitmaps document
  unfold runCompile
  simp only [run_bind_eq_ok_iff, hload, run_lift_eq_ok_iff, run_bitmapsOf, hpreviews,
    savePreviews_eq_saveInOrder]
  constructor
  · intro ⟨_, _, htemplate, _, _, hbitmaps, _, saved, hsave, _, written, hwrite, hsend⟩
    cases htemplate
    cases hbitmaps
    cases hdestination : settings.destination.send with
    | none =>
      rw [hdestination] at hsend
      cases hsend
      exact ⟨rfl, saved, hsave, hwrite⟩
    | some target =>
      rw [hdestination] at hsend
      cases hsend
  · intro ⟨hdestination, saved, hsave, hwrite⟩
    rw [hdestination]
    exact ⟨_, _, rfl, _, _, rfl, (), saved, hsave, (), after, hwrite, rfl⟩

theorem files_writeOutput_none {text : String}
    (h : (writeOutput Shell.memory none text).run.run session = (.ok (), after)) :
    after.files = session.files := by
  cases h
  rfl

end Commands

/-! ## Previews of a map -/

section Maps

variable {bitmaps : Std.TreeMap String Bitmap} {order : List (String × Bitmap)}
  {session after : Session} {directory id : String} {bitmap : Bitmap} {place : Location}

/-- Images are saved in an order, and nothing fails. -/
def SavedInOrder (session : Session) (directory : String) (order : List (String × Bitmap))
    (after : Session) : Prop :=
  (saveInOrder Shell.memory directory order).run.run session = (.ok (), after)

/-- Images whose ids are alike have the same preview. -/
def AgreeWhereAlike (bitmaps : Std.TreeMap String Bitmap) : Prop :=
  ∀ id id' bitmap bitmap', bitmaps[id]? = some bitmap → bitmaps[id']? = some bitmap' →
    Alike id id' → previewFile bitmap = previewFile bitmap'

theorem mem_order_iff (horder : order.Perm bitmaps.toList) :
    (id, bitmap) ∈ order ↔ bitmaps[id]? = some bitmap :=
  horder.mem_iff.trans Std.TreeMap.mem_toList_iff_getElem?_eq_some

theorem exists_mem_order_iff (horder : order.Perm bitmaps.toList) :
    (∃ bitmap, (id, bitmap) ∈ order) ↔ id ∈ bitmaps := by
  simp only [mem_order_iff horder, Std.TreeMap.mem_iff_isSome_getElem?, Option.isSome_iff_exists]

/-- Previews have names of their own if no two ids are alike. -/
theorem nodup_previewNames_iff : (bitmaps.keys.map previewName).Nodup ↔
    ∀ id ∈ bitmaps, ∀ id' ∈ bitmaps, Alike id id' → id = id' := by
  rw [List.nodup_map_iff_inj_on Std.TreeMap.nodup_keys]
  simp only [Std.TreeMap.mem_keys, previewName_eq_iff]

theorem exists_savedInOrder_iff (horder : order.Perm bitmaps.toList) :
    (∃ after, SavedInOrder session directory order after) ↔
      ∃ tree, session.files.createDirectory directory = .ok tree ∧
        ∀ id ∈ bitmaps, Savable tree directory id := by
  unfold SavedInOrder
  simp only [run_saveInOrder_eq_ok_iff]
  rw [exists_comm]
  simp only [exists_and_left, exists_saves_iff, ← exists_mem_order_iff horder, Prod.forall,
    forall_exists_index]

/-- After a run the preview of an image is found in the place of its name. -/
theorem Saves.read_iff {bytes : List UInt8} (h : Saves directory session order after)
    (hslot : session.files.Slot directory (previewName id) place) :
    after.files.read (previewPath directory id) = .ok bytes ↔
      after.files.files.lookup place = some bytes :=
  FileTree.read_joinPath_iff (isFileName_previewName id) (h.slot_iff.2 hslot)

theorem Saves.exists_slot (h : Saves directory session order after)
    (himage : (id, bitmap) ∈ order) :
    ∃ place, session.files.Slot directory (previewName id) place :=
  (exists_saves_iff.1 ⟨after, h⟩ _ himage).2

/-- If images agree where they are alike, it is clear what stands in the place of a name. -/
theorem Saves.lookup_of_agree (h : Saves directory session order after)
    (horder : order.Perm bitmaps.toList) (hagree : AgreeWhereAlike bitmaps)
    (hbitmap : bitmaps[id]? = some bitmap)
    (hslot : session.files.Slot directory (previewName id) place) :
    after.files.files.lookup place = some (previewFile bitmap) := by
  have himage := (mem_order_iff horder).2 hbitmap
  obtain ⟨⟨id', bitmap'⟩, himage', hname, hlookup⟩ :=
    h.exists_lookup ⟨_, himage, rfl⟩ hslot
  rw [hlookup, hagree id' id bitmap' bitmap ((mem_order_iff horder).1 himage') hbitmap
    (previewName_eq_iff.1 hname)]

/-- Each image has its own preview in the end exactly if images agree where they are alike. -/
theorem Saves.own_iff (h : Saves directory session order after)
    (horder : order.Perm bitmaps.toList) :
    (∀ id bitmap, bitmaps[id]? = some bitmap →
      after.files.read (previewPath directory id) = .ok (previewFile bitmap)) ↔
      AgreeWhereAlike bitmaps := by
  constructor
  · intro hown id id' bitmap bitmap' hbitmap hbitmap' halike
    obtain ⟨place, hslot⟩ := h.exists_slot ((mem_order_iff horder).2 hbitmap)
    have hslot' := hslot
    rw [previewName_eq_iff.2 halike] at hslot'
    have hfile := (h.read_iff hslot).1 (hown id bitmap hbitmap)
    have hfile' := (h.read_iff hslot').1 (hown id' bitmap' hbitmap')
    rw [hfile] at hfile'
    exact Option.some.inj hfile'
  · intro hagree id bitmap hbitmap
    obtain ⟨place, hslot⟩ := h.exists_slot ((mem_order_iff horder).2 hbitmap)
    exact (h.read_iff hslot).2 (h.lookup_of_agree horder hagree hbitmap hslot)

/-- Any image may be saved last. -/
theorem exists_savedInOrder_last (hsaved : ∃ after, SavedInOrder session directory order after)
    (horder : order.Perm bitmaps.toList) (hbitmap : bitmaps[id]? = some bitmap) :
    ∃ before after, (before ++ [(id, bitmap)]).Perm bitmaps.toList ∧
      SavedInOrder session directory (before ++ [(id, bitmap)]) after := by
  have hlast : (bitmaps.toList.erase (id, bitmap) ++ [(id, bitmap)]).Perm bitmaps.toList := by
    have hmem := Std.TreeMap.mem_toList_iff_getElem?_eq_some.2 hbitmap
    exact List.perm_append_comm.trans (List.perm_cons_erase hmem).symm
  obtain ⟨after, hafter⟩ :=
    (exists_savedInOrder_iff hlast).2 ((exists_savedInOrder_iff horder).1 hsaved)
  exact ⟨_, after, hlast, hafter⟩

/-- The order is of no matter exactly if images agree where they are alike. -/
theorem savedInOrder_comm_iff (hsaved : SavedInOrder session directory bitmaps.toList after) :
    (∀ order, order.Perm bitmaps.toList → ∀ after', SavedInOrder session directory order after' →
      ∀ place, after'.files.files.lookup place = after.files.files.lookup place) ↔
      AgreeWhereAlike bitmaps := by
  obtain ⟨tree, htree, hsaves⟩ := run_saveInOrder_eq_ok_iff.1 hsaved
  constructor
  · intro hsame id id' bitmap bitmap' hbitmap hbitmap' halike
    obtain ⟨place, hslot⟩ := hsaves.exists_slot ((mem_order_iff (.refl _)).2 hbitmap)
    -- Each of the two stands in this place if it is saved last, and so it does in any order.
    have hfile : ∀ {id bitmap}, bitmaps[id]? = some bitmap →
        tree.Slot directory (previewName id) place →
        after.files.files.lookup place = some (previewFile bitmap) := by
      intro id bitmap hbitmap hslot
      obtain ⟨before, after', horder, hsaved'⟩ :=
        exists_savedInOrder_last ⟨after, hsaved⟩ (.refl _) hbitmap
      obtain ⟨tree', htree', hsaves'⟩ := run_saveInOrder_eq_ok_iff.1 hsaved'
      rw [htree] at htree'
      cases htree'
      rw [← hsame _ horder after' hsaved' place]
      exact hsaves'.lookup_last nofun hslot
    have hfile' := hfile hbitmap' (previewName_eq_iff.2 halike ▸ hslot)
    rw [hfile hbitmap hslot] at hfile'
    exact Option.some.inj hfile'
  · intro hagree order horder after' hsaved' place
    obtain ⟨tree', htree', hsaves'⟩ := run_saveInOrder_eq_ok_iff.1 hsaved'
    rw [htree] at htree'
    cases htree'
    by_cases hslot : ∃ id bitmap, bitmaps[id]? = some bitmap ∧
      tree.Slot directory (previewName id) place
    · obtain ⟨id, bitmap, hbitmap, hslot⟩ := hslot
      rw [hsaves.lookup_of_agree (.refl _) hagree hbitmap hslot,
        hsaves'.lookup_of_agree horder hagree hbitmap hslot]
    · have hnone : ∀ {order : List (String × Bitmap)}, order.Perm bitmaps.toList →
          ∀ image ∈ order, ¬ tree.Slot directory (previewName image.1) place :=
        fun horder image himage hslot' =>
          hslot ⟨image.1, image.2, (mem_order_iff horder).1 himage, hslot'⟩
      rw [hsaves.lookup_of_not_slot (hnone (.refl _)), hsaves'.lookup_of_not_slot (hnone horder)]

variable (bitmaps) in
/-- What becomes of the previews of images that are kept by the `id` of their elements. -/
structure KeepsPreviews : Prop where
  /-- The names of two previews are the same exactly if the ids are alike, -/
  name_iff : ∀ id id', previewName id = previewName id' ↔ Alike id id'
  /-- so no two images have one name exactly if no two ids are alike. -/
  distinct_iff : (bitmaps.keys.map previewName).Nodup ↔
    ∀ id ∈ bitmaps, ∀ id' ∈ bitmaps, Alike id id' → id = id'
  /-- Previews stand in one place exactly if the ids are alike. -/
  place_eq_iff : ∀ (tree : FileTree) directory id id' place place',
    tree.Slot directory (previewName id) place → tree.Slot directory (previewName id') place' →
    (place = place' ↔ Alike id id')
  /-- In any order all of them are saved if there is a directory with a place for each of them, and
  no `id` is empty. -/
  saved_iff : ∀ order, order.Perm bitmaps.toList → ∀ session directory,
    (∃ after, SavedInOrder session directory order after) ↔
      ∃ tree, session.files.createDirectory directory = .ok tree ∧
        ∀ id ∈ bitmaps, Savable tree directory id
  /-- Of those with ids that are alike the last one stays. -/
  last : ∀ order, order.Perm bitmaps.toList → ∀ session directory after,
    SavedInOrder session directory order after → ∀ before id bitmap behind,
    order = before ++ (id, bitmap) :: behind → (∀ image ∈ behind, ¬ Alike image.1 id) →
    after.files.read (previewPath directory id) = .ok (previewFile bitmap)
  /-- Each image is left with its own preview exactly if no two that differ have ids alike; -/
  own_iff : ∀ order, order.Perm bitmaps.toList → ∀ session directory after,
    SavedInOrder session directory order after →
    ((∀ id bitmap, bitmaps[id]? = some bitmap →
      after.files.read (previewPath directory id) = .ok (previewFile bitmap)) ↔
      AgreeWhereAlike bitmaps)
  /-- and exactly then the order is of no matter to any file. -/
  order_iff : ∀ session directory saved, SavedInOrder session directory bitmaps.toList saved →
    ((∀ order, order.Perm bitmaps.toList → ∀ after, SavedInOrder session directory order after →
      ∀ place, after.files.files.lookup place = saved.files.files.lookup place) ↔
      AgreeWhereAlike bitmaps)
  /-- Every other file stays as it was. -/
  untouched : ∀ order, order.Perm bitmaps.toList → ∀ session directory after,
    SavedInOrder session directory order after → ∀ place,
    (∀ id ∈ bitmaps, ¬ after.files.Slot directory (previewName id) place) →
    after.files.files.lookup place = session.files.files.lookup place
  /-- A command on files saves the previews of the images that its template has, in the order of the
  map; only its document is written behind them. -/
  command : ∀ settings directory, settings.previews = some directory → ∀ session template,
    (loadTemplate Shell.memory settings.template settings.printer).run.run session =
      (.ok template, session) →
    bitmaps = bitmapsBy (renderIn session.files) template.elements template.canvas.dpi →
    ∀ after, (runCompile Shell.memory settings).run.run session = (.ok (), after) ↔
      settings.destination.send = none ∧ ∃ saved,
        SavedInOrder session directory bitmaps.toList saved ∧
        (writeOutput Shell.memory settings.destination.output (template.compile
          { placeholders := !settings.literal, imageCache := imageCache bitmaps })).run.run saved =
            (.ok (), after) ∧
        (settings.destination.output = none → after.files = saved.files)

/-- **Each image is left with a preview of its own as long as no two ids are alike**, and then the
order in which they are saved is of no matter. -/
theorem keepsPreviews (bitmaps : Std.TreeMap String Bitmap) : KeepsPreviews bitmaps := by
  constructor
  case name_iff => exact fun id id' => previewName_eq_iff
  case distinct_iff => exact nodup_previewNames_iff
  case place_eq_iff =>
    intro tree directory id id' place place' hslot hslot'
    rw [hslot.place_eq_iff hslot', previewName_eq_iff]
  case saved_iff => exact fun order horder session directory => exists_savedInOrder_iff horder
  case last =>
    intro order horder session directory after hsaved before id bitmap behind hsplit hbehind
    obtain ⟨tree, -, hsaves⟩ := run_saveInOrder_eq_ok_iff.1 hsaved
    subst hsplit
    have himage : (id, bitmap) ∈ before ++ (id, bitmap) :: behind := by simp
    obtain ⟨place, hslot⟩ := hsaves.exists_slot himage
    refine (hsaves.read_iff hslot).2 (hsaves.lookup_last ?_ hslot)
    exact fun image himage hname => hbehind image himage (previewName_eq_iff.1 hname)
  case own_iff =>
    intro order horder session directory after hsaved
    obtain ⟨tree, -, hsaves⟩ := run_saveInOrder_eq_ok_iff.1 hsaved
    exact hsaves.own_iff horder
  case order_iff => exact fun session directory saved hsaved => savedInOrder_comm_iff hsaved
  case untouched =>
    intro order horder session directory after hsaved place hnone
    obtain ⟨tree, htree, hsaves⟩ := run_saveInOrder_eq_ok_iff.1 hsaved
    rw [hsaves.lookup_of_not_slot, FileTree.files_createDirectory htree]
    intro image himage hslot
    exact hnone image.1 ((exists_mem_order_iff horder).1 ⟨image.2, himage⟩) (hsaves.slot_iff.2 hslot)
  case command =>
    intro settings directory hpreviews session template hload hbitmaps after
    subst hbitmaps
    refine (run_runCompile_eq_ok_iff hpreviews hload).trans ?_
    refine and_congr_right fun _ => exists_congr fun saved => and_congr_right fun _ => ?_
    refine (and_iff_left_of_imp fun hwrite houtput => ?_).symm
    rw [houtput] at hwrite
    exact files_writeOutput_none hwrite

/-- The images of `a/b` and `a_b` have one preview, and the one that is saved last has it. -/
theorem keepsPreviews_slash :
    let white : String × Bitmap := ("a/b", { width := 1, height := 1, data := #[0] })
    let black : String × Bitmap := ("a_b", { width := 1, height := 1, data := #[128] })
    let filesAfter := fun order =>
      ((saveInOrder Shell.memory "p" order).run.run { files := {} }).2.files.files
    ¬ ((Std.TreeMap.ofList [white, black]).keys.map previewName).Nodup ∧
      filesAfter [white, black] = [(["p", "a_b.png"], previewFile black.2)] ∧
      filesAfter [black, white] = [(["p", "a_b.png"], previewFile white.2)] ∧
      previewFile white.2 ≠ previewFile black.2 := by
  decide +kernel

end Maps

end LabelPress.CommandLine
