import ElementWrap.Files.Disk
import ElementWrap.Proofs.Ordered
import ElementWrap.Proofs.Text.Encoding

/-! # What operations leave of a disk

Filling or vacating a place touches that place alone. A path that can be followed leads to the same
place on every disk that has the directories of the first one
(`ElementWrap.Files.Disk.KeepsDirectories.follow`).
-/

namespace ElementWrap.Files.Disk

section Places

variable {disk : Disk} {place other : Location} {node : Node}

private theorem node?_root : disk.node? [] = some .directory := rfl

/-- The root is a directory. -/
theorem ne_root_of_node? (noDirectory : disk.node? place ≠ some .directory) : place ≠ [] := by
  rintro rfl
  exact noDirectory node?_root

/-- What was put in a place is there. -/
theorem node?_put_self (used : place ≠ []) : (disk.put place node).node? place = some node := by
  rw [node?, if_neg used, put, Ordered.get?_put, if_pos rfl]

/-- Other places keep their nodes when something is put. -/
theorem node?_put_of_ne (different : other ≠ place) :
    (disk.put place node).node? other = disk.node? other := by
  unfold node?
  split
  · rfl
  · rw [put, Ordered.get?_put, if_neg different.symm]

/-- What was erased is gone. -/
theorem node?_erase_self (used : place ≠ []) : (disk.erase place).node? place = none := by
  rw [node?, if_neg used, Ordered.get?_eq_none_iff]
  intro member
  obtain ⟨entry, kept, rfl⟩ := List.mem_map.mp member
  simp [erase, Ordered.erase] at kept

/-- Other places keep their nodes when something is erased. -/
theorem node?_erase_of_ne (different : other ≠ place) :
    (disk.erase place).node? other = disk.node? other := by
  unfold node?
  split
  · rfl
  · exact Ordered.get?_erase_of_ne different

/-- A file is held exactly if it is the node of its place. -/
theorem file?_eq_some_iff {content : List UInt8} :
    disk.file? place = some content ↔ disk.node? place = some (.file content) := by
  unfold file?
  split
  · next held same => rw [same]; simp
  · next none => exact iff_of_false (fun same => by cases same) (none content)

end Places

/-- Every directory of a disk is one of another, which has the same working directory. -/
structure KeepsDirectories (before after : Disk) : Prop where
  home : after.home = before.home
  kept : ∀ place, before.node? place = some .directory → after.node? place = some .directory

namespace KeepsDirectories

variable {before between after : Disk} {path : Path} {place : Location}

/-- Directories stay where nothing happens. -/
theorem refl (disk : Disk) : KeepsDirectories disk disk := ⟨rfl, fun _ => id⟩

/-- Directories that stay twice stay. -/
theorem trans (first : KeepsDirectories before between) (second : KeepsDirectories between after) :
    KeepsDirectories before after :=
  ⟨second.home.trans first.home, fun place => second.kept place ∘ first.kept place⟩

/-- A walk leads to the same place as long as directories stay. -/
theorem walk (keeps : KeepsDirectories before after) {start : Location} {steps : List String}
    (led : before.walk start steps = .ok place) : after.walk start steps = .ok place := by
  induction steps generalizing start with
  | nil => exact led
  | cons step rest ih =>
      unfold Disk.walk at led ⊢
      cases standing : before.node? start with
      | none =>
          rw [standing] at led
          exact nomatch led
      | some node =>
          cases node with
          | file content =>
              rw [standing] at led
              exact nomatch led
          | directory =>
              rw [standing] at led
              rw [keeps.kept start standing]
              simp only at led ⊢
              split at led
              · next upwards => rw [if_pos upwards, ih led]
              · next inwards =>
                  rw [if_neg inwards]
                  split at led
                  · exact nomatch led
                  · next short => rw [if_neg short, ih led]

private theorem resolve (keeps : KeepsDirectories before after)
    (led : before.resolve path = .ok place) : after.resolve path = .ok place := by
  unfold Disk.resolve at led ⊢
  rw [keeps.home]
  split at led
  · exact nomatch led
  · next short => rw [if_neg short, keeps.walk led]

/-- A path leads to the same place as long as the directories stay. -/
theorem follow (keeps : KeepsDirectories before after)
    (led : before.follow path = .ok place) : after.follow path = .ok place := by
  unfold Disk.follow at led ⊢
  split at led
  · exact nomatch led
  · next speakable =>
      rw [if_neg speakable]
      cases resolved : before.resolve path with
      | error refusal =>
          rw [resolved] at led
          exact nomatch led
      | ok found =>
          rw [resolved] at led
          rw [keeps.resolve resolved]
          exact led

end KeepsDirectories

section Operations

variable {disk after : Disk} {path : Path} {place : Location} {content : List UInt8}

/-- What following a path takes: it can be spoken, it is not too long, and its steps lead on. -/
theorem follow_eq_ok_iff : disk.follow path = .ok place ↔
    isUnspeakable path = false ∧ disk.resolve path = .ok place := by
  unfold follow
  cases isUnspeakable path with
  | true => simp
  | false =>
      simp only [Bool.false_eq_true, ↓reduceIte, true_and]
      cases disk.resolve path <;> simp

/-- A path is resolved if it is short enough and its steps can be walked. -/
theorem resolve_eq_ok_iff : disk.resolve path = .ok place ↔
    Text.Utf8.nameSize path.toString < pathLimit ∧
      disk.walk (if path.anchor = .relative then disk.home else []) path.steps = .ok place := by
  unfold resolve
  split
  · next long => exact iff_of_false (fun same => nomatch same) fun led => by omega
  · next short => exact (and_iff_right (Nat.lt_of_not_le short)).symm

/-- The operating system does not see a path that can not be handed over, so it refuses none. -/
theorem unspeakable_ne_refused (path : Path) (refusal : Refusal) (name : String) :
    unspeakable path ≠ .refused refusal name := by
  unfold unspeakable
  split <;> exact nofun

/-- A written file is where its path leads, and no directory was there. -/
theorem writeFile_eq_ok_iff : disk.writeFile path content = .ok after ↔
    ∃ place, disk.follow path = .ok place ∧ disk.node? place ≠ some .directory ∧
      after = disk.put place (.file content) := by
  unfold writeFile
  cases disk.follow path with
  | error fault => exact iff_of_false (fun same => nomatch same) fun ⟨_, led, _⟩ => nomatch led
  | ok place =>
      simp only [bind, Except.bind, Except.ok.injEq, exists_eq_left']
      split
      · next standing => exact iff_of_false (fun same => nomatch same) fun free => free.1 standing
      · next free =>
          exact ⟨fun same => ⟨free, (Except.ok.inj same).symm⟩, fun ⟨_, same⟩ => same ▸ rfl⟩

/-- The writing of a text leaves the disk alone or puts a file on it. -/
theorem writeText_cases (disk : Disk) (path : Path) (text : String) :
    (disk.writeText path text).2 = disk ∨
      disk.writeFile path (Text.Utf8.encodeOrEmpty text) = .ok (disk.writeText path text).2 := by
  unfold writeText
  split
  · exact .inl rfl
  · next opened => exact .inr opened

/-- A text that is written has an encoding, and its bytes are in the file. -/
theorem writeText_ok {text : String} (written : disk.writeText path text = (.ok (), after)) :
    Text.Utf8.isEncodable text = true ∧
      disk.writeFile path (Text.Utf8.encodeOrEmpty text) = .ok after := by
  unfold writeText at written
  split at written
  · exact nomatch written
  · next opened =>
      cases encoded : Text.Utf8.encode? text with
      | error stretch =>
          rw [encoded] at written
          exact nomatch written
      | ok content =>
          rw [Prod.mk.injEq] at written
          exact ⟨(Text.Utf8.encode?_eq_ok_iff.mp encoded).1, written.2 ▸ opened⟩

/-- A text that is not written was not let in, or it has no encoding and its file is empty now. -/
theorem writeText_error {text : String} {fault : Fault}
    (refused : disk.writeText path text = (.error fault, after)) :
    (after = disk ∧ disk.writeFile path (Text.Utf8.encodeOrEmpty text) = .error fault) ∨
      Text.Utf8.isEncodable text = false ∧ (∃ stretch, fault = .unencodable stretch) ∧
        disk.writeFile path (Text.Utf8.encodeOrEmpty text) = .ok after := by
  unfold writeText at refused
  split at refused
  · next failed =>
      cases refused
      exact .inl ⟨rfl, failed⟩
  · next opened =>
      rw [Prod.mk.injEq] at refused
      obtain ⟨unencoded, rfl⟩ := refused
      cases encoded : Text.Utf8.encode? text with
      | error stretch =>
          rw [encoded] at unencoded
          refine .inr ⟨?_, ⟨stretch, (Except.error.inj unencoded).symm⟩, opened⟩
          rw [← Bool.not_eq_true]
          intro whole
          exact nomatch (Text.Utf8.encode?_eq_ok_iff.mpr ⟨whole, rfl⟩).symm.trans encoded
      | ok content =>
          rw [encoded] at unencoded
          exact nomatch unencoded

/-- A text with an encoding is written where its file can be. -/
theorem writeText_of_encodable {text : String} (whole : Text.Utf8.isEncodable text = true)
    (opened : disk.writeFile path (Text.Utf8.encodeOrEmpty text) = .ok after) :
    disk.writeText path text = (.ok (), after) := by
  simp only [writeText, opened, Text.Utf8.encode?_eq_ok_iff.mpr ⟨whole, rfl⟩]
  rfl

/-- A file takes the place of no directory, so the directories stay. -/
theorem keepsDirectories_put (free : disk.node? place ≠ some .directory)
    (content : List UInt8) : KeepsDirectories disk (disk.put place (.file content)) := by
  refine ⟨rfl, fun other standing => ?_⟩
  have different : other ≠ place := fun same => free (same ▸ standing)
  rw [node?_put_of_ne different, standing]

/-- A file that is put takes no directory away, and brings none. -/
theorem keepsDirectories_of_put (free : disk.node? place ≠ some .directory)
    (content : List UInt8) : (disk.put place (.file content)).KeepsDirectories disk := by
  refine ⟨rfl, fun other standing => ?_⟩
  by_cases same : other = place
  · rw [same, node?_put_self (ne_root_of_node? free)] at standing
    exact nomatch standing
  · rwa [node?_put_of_ne same] at standing

/-- No directory is erased with a file. -/
theorem keepsDirectories_erase (held : disk.node? place = some (.file content)) :
    KeepsDirectories disk (disk.erase place) := by
  refine ⟨rfl, fun other standing => ?_⟩
  have different : other ≠ place := by
    rintro rfl
    exact nomatch held.symm.trans standing
  rw [node?_erase_of_ne different, standing]

/-- None comes with it either. -/
theorem keepsDirectories_of_erase (held : disk.node? place = some (.file content)) :
    (disk.erase place).KeepsDirectories disk := by
  refine ⟨rfl, fun other standing => ?_⟩
  have noDirectory : disk.node? place ≠ some .directory := by simp [held]
  have different : other ≠ place := by
    rintro rfl
    exact nomatch (node?_erase_self (ne_root_of_node? noDirectory)).symm.trans standing
  rwa [node?_erase_of_ne different] at standing

/-- A file that is put is held in its place, and other places hold what they held. -/
theorem file?_put (free : disk.node? place ≠ some .directory)
    (content : List UInt8) (other : Location) :
    (disk.put place (.file content)).file? other =
      if other = place then some content else disk.file? other := by
  unfold file?
  by_cases same : other = place
  · rw [if_pos same, same, node?_put_self (ne_root_of_node? free)]
  · rw [if_neg same, node?_put_of_ne same]

/-- What was written behind a file is a file where the path leads. -/
theorem appendFile_ok (appended : disk.appendFile path content = .ok after) :
    ∃ place written, disk.follow path = .ok place ∧ disk.node? place ≠ some .directory ∧
      after = disk.put place (.file written) := by
  unfold appendFile at appended
  cases led : disk.follow path with
  | error fault =>
      rw [led] at appended
      exact nomatch appended
  | ok place =>
      rw [led] at appended
      simp only [bind, Except.bind] at appended
      split at appended
      · exact nomatch appended
      · next before held =>
          exact ⟨place, _, rfl, by simp [held], (Except.ok.inj appended).symm⟩
      · next free => exact ⟨place, _, rfl, by simp [free], (Except.ok.inj appended).symm⟩

/-- Behind a place without a directory there is room for more. -/
theorem appendFile_of_free (led : disk.follow path = .ok place)
    (free : disk.node? place ≠ some .directory) (content : List UInt8) :
    disk.appendFile path content =
      .ok (disk.put place (.file ((disk.file? place).getD [] ++ content))) := by
  unfold appendFile file?
  rw [led]
  simp only [bind, Except.bind]
  cases held : disk.node? place with
  | none => rfl
  | some node =>
      cases node with
      | directory => exact absurd held free
      | file before => rfl

/-- A removed file is no longer where its path led, and nothing but a file was there. -/
theorem removeFile_ok (removed : disk.removeFile path = .ok after) :
    (after = disk ∧ ∀ place, disk.follow path = .ok place → disk.node? place = none) ∨
    ∃ place before, disk.follow path = .ok place ∧ disk.node? place = some (.file before) ∧
      after = disk.erase place := by
  unfold removeFile at removed
  cases speakable : isUnspeakable path with
  | true =>
      rw [speakable] at removed
      exact nomatch removed
  | false =>
      have led (place : Location) :
          disk.follow path = .ok place ↔ disk.resolve path = .ok place := by
        rw [follow_eq_ok_iff]
        exact and_iff_right speakable
      rw [speakable] at removed
      simp only [led]
      cases resolved : disk.resolve path with
      | error refusal =>
          rw [resolved] at removed
          cases refusal with
          | missing => exact .inl ⟨(Except.ok.inj removed).symm, fun place same => nomatch same⟩
          | _ => exact nomatch removed
      | ok place =>
          rw [resolved] at removed
          cases held : disk.node? place with
          | none =>
              simp only [held] at removed
              refine .inl ⟨(Except.ok.inj removed).symm, fun other same => ?_⟩
              rwa [← Except.ok.inj same]
          | some node =>
              cases node with
              | directory =>
                  simp only [held] at removed
                  exact nomatch removed
              | file before =>
                  simp only [held] at removed
                  exact .inr ⟨place, before, rfl, held, (Except.ok.inj removed).symm⟩

/-- A file can be removed unless a directory is in its place. -/
theorem exists_removeFile (led : disk.follow path = .ok place)
    (free : disk.node? place ≠ some .directory) : ∃ after, disk.removeFile path = .ok after := by
  obtain ⟨speakable, resolved⟩ := follow_eq_ok_iff.mp led
  unfold removeFile
  rw [speakable, resolved]
  cases held : disk.node? place with
  | none =>
      simp only [held]
      exact ⟨disk, rfl⟩
  | some node =>
      cases node with
      | directory => exact absurd held free
      | file content =>
          simp only [held]
          exact ⟨disk.erase place, rfl⟩

end Operations

end ElementWrap.Files.Disk
