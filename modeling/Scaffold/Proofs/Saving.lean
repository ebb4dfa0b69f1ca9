import Scaffold.Config.File
import Scaffold.Proofs.Directories
import Scaffold.Proofs.Settings
import Scaffold.Proofs.Tables

/-!
Configurations that are saved and loaded.

A file that is made at a path is found there afterwards, also through links, and replacing it once
more leaves no trace of what it held before. So a configuration comes back from the path that it
was saved at, and saving it there again changes nothing.
-/
namespace Scaffold

open FileTree (files)

variable {t : FileTree} {path text : String} {location : Location}

namespace FileTree

/-- A landing where a file is, or can be made. -/
inductive LandsAtFile (location : Location) : Landing → Prop where
  | free : LandsAtFile location (.free location)
  | file (bytes : ByteArray) : LandsAtFile location (.taken location (.file bytes))

/-- A file can be opened at a path for writing, whether it is there before or not. -/
def Writable (t : FileTree) (path : String) : Prop :=
  ∃ location, (t.createEmpty path).1 = .ok (.file location 0)

theorem put_put (t : FileTree) (location : Location) (e e' : Entry) :
    (t.put location e).put location e' = t.put location e' := by
  rw [put, put, put, Table.insert_insert]

variable {purpose : Purpose} {links : Nat} {here : Location} {way : List String}
  {landing : Landing}

theorem LandsAtFile.entry? (h : LandsAtFile location landing)
    (hfollows : t.Follows purpose links here way landing) :
    t.entry? location = none ∨ ∃ bytes, t.entry? location = some (.file bytes) := by
  cases h with
  | free => exact Or.inl hfollows.entry?_free
  | file bytes =>
    rcases hfollows.entry?_taken with h | h
    · cases h
    · exact Or.inr ⟨bytes, h⟩

theorem LandsAtFile.ne_nil (h : LandsAtFile location landing)
    (hfollows : t.Follows purpose links here way landing) : location ≠ [] := by
  refine ne_nil_of_not_directory (t := t) ?_
  rcases h.entry? hfollows with hplace | ⟨_, hplace⟩
  · simp [hplace]
  · simp [hplace]

/-- Names that lead to where a file is made lead to that file afterwards. -/
theorem Follows.put_file (h : t.Follows purpose links here way landing)
    (hl : LandsAtFile location landing) (bytes : ByteArray) :
    (t.put location (.file bytes)).Follows purpose links here way
      (.taken location (.file bytes)) := by
  have hplace := hl.entry? h
  have hne := hl.ne_nil h
  have hhere : entry? (t.put location (.file bytes)) location = some (.file bytes) := by
    rw [entry?_put t hne, if_pos rfl]
  -- directories and links on the way are elsewhere, so they are still there
  have hkept (l : Location) (e : Entry) (he : t.entry? l = some e)
      (hfile : ∀ bytes, e ≠ .file bytes) :
      entry? (t.put location (.file bytes)) l = some e := by
    rw [entry?_put t hne, if_neg, he]
    rintro rfl
    rcases hplace with hplace | ⟨old, hplace⟩
    · rw [hplace] at he
      cases he
    · rw [hplace] at he
      exact hfile old (Option.some.inj he).symm
  induction h with
  | stop => cases hl
  | skip empty _ ih => exact .skip empty (ih hl)
  | up _ ih => exact .up (ih hl)
  | free sought _ =>
    cases hl
    exact .last sought hhere (by simp) (by simp)
  | into sought found _ ih => exact .into sought (hkept _ _ found (by simp)) (ih hl)
  | link sought found followed _ ih =>
    exact .link sought (hkept _ _ found (by simp)) followed (ih hl)
  | stay => cases hl
  | last sought found _ _ =>
    cases hl
    exact .last sought hhere (by simp) (by simp)

/-- What it takes that a file is opened for writing, and where. -/
theorem createEmpty_eq_file_iff : (t.createEmpty path).1 = .ok (.file location 0) ↔
    ∃ landing, t.target true path = .ok landing ∧ LandsAtFile location landing := by
  rw [createEmpty]
  constructor
  · intro h
    rcases hr : t.target true path with fault | landing
    · rw [hr] at h
      cases h
    · rw [hr] at h
      refine ⟨landing, rfl, ?_⟩
      cases landing with
      | free l =>
        cases h
        exact .free
      | taken l e =>
        cases e with
        | file bytes =>
          cases h
          exact .file bytes
        | directory => cases h
        | link target => cases h
        | fullDevice => cases h
  · rintro ⟨landing, hr, hl⟩
    rw [hr]
    cases hl <;> rfl

theorem createEmpty_file (h : (t.createEmpty path).1 = .ok (.file location 0)) :
    t.createEmpty path = (.ok (.file location 0), t.put location (.file .empty)) := by
  obtain ⟨landing, hr, hl⟩ := createEmpty_eq_file_iff.1 h
  rw [createEmpty, hr]
  cases hl <;> rfl

/-- Once a file has been made at a path, the path leads to it. -/
theorem status_put_file (h : (t.createEmpty path).1 = .ok (.file location 0)) (bytes : ByteArray) :
    (t.put location (.file bytes)).status path = .ok (location, .file bytes) ∧
      ((t.put location (.file bytes)).createEmpty path).1 = .ok (.file location 0) := by
  obtain ⟨landing, hr, hl⟩ := createEmpty_eq_file_iff.1 h
  obtain ⟨hcheck, hfollows⟩ := resolve_eq_ok_iff_follows.1 hr
  have hput := hfollows.put_file hl bytes
  refine ⟨status_eq_ok_iff_follows.2 ⟨hcheck, hput.of_makesFile⟩, ?_⟩
  exact createEmpty_eq_file_iff.2 ⟨_, resolve_eq_ok_iff_follows.2 ⟨hcheck, hput⟩, .file bytes⟩

theorem yields_writeText (h : (t.createEmpty path).1 = .ok (.file location 0)) (text : String) :
    Yields (fun _ => files.writeText path text) t (.ok ())
      (t.put location (.file text.toUTF8)) := by
  obtain ⟨landing, hr, hl⟩ := createEmpty_eq_file_iff.1 h
  have hne := hl.ne_nil (resolve_eq_ok_iff_follows.1 hr).2
  have hempty : entry? (t.put location (.file .empty)) location = some (.file .empty) := by
    rw [entry?_put t hne, if_pos rfl]
  -- the file has been emptied, so the text is written at its end
  have hoverwrite : overwrite .empty 0 text.toUTF8 = text.toUTF8 := by
    have hsize : 0 = ByteArray.empty.size := rfl
    rw [overwrite, if_pos hsize, ByteArray.empty_append]
  have hwrite : write (t.put location (.file .empty)) (.file location 0) text =
      (.ok (.file location (0 + text.utf8ByteSize)), t.put location (.file text.toUTF8)) := by
    rw [write, hempty]
    simp only [hoverwrite, put_put]
  have hcreated : Yields (fun _ => files.createEmpty path) t (.ok (.file location 0))
      (t.put location (.file .empty)) := fun _ s => congrArg (·, s) (createEmpty_file h)
  have hwritten : Yields (fun _ => files.write (.file location 0) text)
      (t.put location (.file .empty)) (.ok (.file location (0 + text.utf8ByteSize)))
      (t.put location (.file text.toUTF8)) := fun _ s => congrArg (·, s) hwrite
  exact hcreated.bind (hwritten.bind fun _ _ => rfl)

theorem contents_of_status {bytes : ByteArray} (h : t.status path = .ok (location, .file bytes)) :
    t.contents path = .ok bytes := by
  rw [contents, h]
  rfl

theorem yields_readText (h : t.status path = .ok (location, .file text.toUTF8)) :
    Yields (fun _ => files.readText path) t (.ok text) t := by
  have hread : Yields (fun _ => files.readFile path) t (.ok text.toUTF8) t :=
    fun _ s => congrArg (fun result => ((result, t), s)) (contents_of_status h)
  have htext : String.fromUTF8? text.toUTF8 = some text := dif_pos text.isValidUTF8
  refine hread.bind fun _ s => ?_
  simp only [htext]
  rfl

end FileTree

namespace Config

theorem yields_pathExists (path : String) (t : FileTree) :
    Yields (fun _ => files.pathExists path) t (t.pathExists path) t := fun _ _ => rfl

/-- Where nothing is found at a path, the standard configuration is in force. -/
theorem yields_loadOrStandard_absent (h : t.pathExists path = false) :
    Yields (fun _ => loadOrStandard files path) t (.ok standard) t := by
  have hthere := yields_pathExists path t
  rw [h] at hthere
  have hnone : Yields (fun _ => loadIfThere files path) t none t := hthere.bind fun _ _ => rfl
  exact hnone.bind fun _ _ => rfl

/-- Where a file with a text is found, the configuration in force is the one in the text. -/
theorem yields_loadOrStandard_file (h : t.status path = .ok (location, .file text.toUTF8)) :
    Yields (fun _ => loadOrStandard files path) t
      ((decode text).mapError (.configMalformed path)) t := by
  have hthere := yields_pathExists path t
  have hexists : t.pathExists path = true := by
    rw [FileTree.pathExists, h]
    rfl
  rw [hexists] at hthere
  have hload : Yields (fun _ => load files path) t ((decode text).mapError (.configMalformed path))
      t := (FileTree.yields_readText h).bind fun _ _ => rfl
  have hfound : Yields (fun _ => loadIfThere files path) t
      (some ((decode text).mapError (.configMalformed path))) t :=
    hthere.bind (hload.bind fun _ _ => rfl)
  exact hfound.bind fun _ _ => rfl

/-- A configuration is loaded from the path that it was saved at, whether or not there must be a
file, and saving it there once more leaves the tree as it is. -/
theorem save_load (h : t.Writable path) (c : Config) : ∃ t',
    Yields (fun _ => save files c path) t (.ok ()) t' ∧
    Yields (fun _ => load files path) t' (.ok c) t' ∧
    Yields (fun _ => loadOrStandard files path) t' (.ok c) t' ∧
    t'.contents path = .ok (c.text ++ "\n").toUTF8 ∧
    Yields (fun _ => save files c path) t' (.ok ()) t' := by
  obtain ⟨location, hcreate⟩ := h
  let t' : FileTree := t.put location (.file (c.text ++ "\n").toUTF8)
  obtain ⟨hstatus, hagain⟩ := FileTree.status_put_file hcreate (c.text ++ "\n").toUTF8
  have hsave : Yields (fun _ => save files c path) t (.ok ()) t' :=
    (FileTree.yields_writeText hcreate _).bind fun _ _ => rfl
  have hresave : Yields (fun _ => save files c path) t' (.ok ()) t' := by
    have hwrite := FileTree.yields_writeText hagain (c.text ++ "\n")
    rw [FileTree.put_put] at hwrite
    exact hwrite.bind fun _ _ => rfl
  have hdecode : decode (c.text ++ "\n") = .ok c := c.decode_text (by decide)
  have hload : Yields (fun _ => load files path) t' (.ok c) t' := by
    refine (FileTree.yields_readText hstatus).bind fun _ s => ?_
    simp only [hdecode]
    rfl
  have hthere : Yields (fun _ => files.pathExists path) t' true t' := by
    have hexists : t'.pathExists path = true := by
      rw [FileTree.pathExists, hstatus]
      rfl
    exact fun _ s => congrArg (fun there => ((there, t'), s)) hexists
  have hloadIfThere : Yields (fun _ => loadIfThere files path) t' (some (.ok c)) t' :=
    hthere.bind (hload.bind fun _ _ => rfl)
  exact ⟨t', hsave, hload, hloadIfThere.bind fun _ _ => rfl, FileTree.contents_of_status hstatus,
    hresave⟩

/-- A link whose target is not there yet, and settings that are set to nothing. -/
theorem save_load_link :
    let t : FileTree := ⟨[(["alias"], .link "real")], []⟩
    let c : Config := ⟨some "", true, none, some [], "\x00\"", "\\é"⟩
    t.Writable "alias" ∧ ∃ t',
      Yields (fun _ => save files c "alias") t (.ok ()) t' ∧
      Yields (fun _ => load files "alias") t' (.ok c) t' ∧
      Yields (fun _ => loadOrStandard files "alias") t' (.ok c) t' ∧
      t'.contents "alias" = .ok (c.text ++ "\n").toUTF8 ∧
      Yields (fun _ => save files c "alias") t' (.ok ()) t' := by
  intro t c
  have hsought {name : String} (h : name = "alias" ∨ name = "real") :
      FileTree.Sought ⟨true, true⟩ name [] := by
    rcases h with rfl | rfl
    · exact ⟨by decide, by decide, by decide, by simp⟩
    · exact ⟨by decide, by decide, by decide, by simp⟩
  have hreal : t.Follows ⟨true, true⟩ 39 [] ["real"] (.free ["real"]) :=
    .free (hsought (Or.inr rfl)) rfl
  have halias : t.Follows ⟨true, true⟩ FileTree.mostLinks [] ["alias"] (.free ["real"]) :=
    .link (hsought (Or.inl rfl)) rfl (Or.inr rfl) hreal
  have hcheck : FileTree.checkPath "alias" = .ok () := by decide
  have htarget : t.target true "alias" = .ok (.free ["real"]) :=
    FileTree.resolve_eq_ok_iff_follows.2 ⟨hcheck, halias⟩
  have hwritable : t.Writable "alias" :=
    ⟨_, FileTree.createEmpty_eq_file_iff.2 ⟨_, htarget, .free⟩⟩
  exact ⟨hwritable, save_load hwritable c⟩

end Config

end Scaffold
