import ElementWrap.Proofs.Work.Start

/-! # What a build fails with

A build answers its failures, and what stands in its way besides lies outside of the program: the
disk refuses the debug file, or a method can not be called on the logger of the caller
(`ElementWrap.Work.raises_build`). Above all, valid options are never refused.
-/

namespace ElementWrap.Work

open Files Log Layout Raises

variable {options : BuildOptions}

/-- A fault that lies outside of the program: an operation on the disk is refused, or a path can not
be handed to it, or a method can not be called on a logger of the caller. -/
inductive IsOutsideFault : Fault → Prop
  | refused (refusal : Refusal) (path : String) : IsOutsideFault (.refused refusal path)
  | nullByte : IsOutsideFault .nullByte
  | unencodable (fault : Text.Utf8.Unencodable) : IsOutsideFault (.unencodable fault)
  | wrongType : IsOutsideFault .wrongType
  | noAttribute : IsOutsideFault .noAttribute

/-! ## The disk -/

private theorem isOutsideFault_unspeakable (path : Path) :
    IsOutsideFault (Disk.unspeakable path) := by
  unfold Disk.unspeakable
  split
  · exact .unencodable _
  · exact .nullByte

private theorem failsAmong_follow (disk : Disk) (path : Path) :
    FailsAmong IsOutsideFault (disk.follow path) := by
  unfold Disk.follow
  split
  · exact .error (isOutsideFault_unspeakable path)
  · split
    · exact .ok _
    · exact .error (.refused _ _)

private theorem failsAmong_appendFile (disk : Disk) (path : Path) (content : List UInt8) :
    FailsAmong IsOutsideFault (disk.appendFile path content) := by
  refine (failsAmong_follow disk path).bind fun place => ?_
  split
  · exact .error (.refused _ _)
  · exact .ok _
  · exact .ok _

private theorem failsAmong_removeFile (disk : Disk) (path : Path) :
    FailsAmong IsOutsideFault (disk.removeFile path) := by
  unfold Disk.removeFile
  cases Disk.isUnspeakable path with
  | true => exact .error (isOutsideFault_unspeakable path)
  | false =>
      simp only [Bool.false_eq_true, if_false]
      split
      · exact .ok _
      · exact .error (.refused _ _)
      · split
        · exact .ok _
        · exact .error (.refused _ _)
        · exact .ok _

private theorem raises_onDisk {among : Fault → Prop} {operation : Disk → Except Fault Disk}
    (fails : ∀ disk, FailsAmong among (operation disk)) : Raises among (onDisk operation) := by
  intro workspace
  have failed := fails workspace.disk
  rw [run_onDisk]
  cases done : operation workspace.disk with
  | error fault => exact .error (failed fault done)
  | ok disk => exact .ok ()

/-! ## Reports -/

private theorem raises_handle (stamp : String) (entry : Entry) (handlers : List Handler) :
    Raises IsOutsideFault (handle stamp entry handlers) := by
  induction handlers with
  | nil => exact pure ()
  | cons handler rest ih =>
      cases handler with
      | quiet => exact ih
      | terminal level => exact ih
      | file level path =>
          intro workspace
          rw [run_handle_file]
          split
          · exact (raises_onDisk fun disk => failsAmong_appendFile disk path _).bind
              (fun _ => ih) workspace
          · exact ih workspace

private theorem raises_record (entry : Entry) : Raises IsOutsideFault (record entry) := by
  intro workspace
  rw [run_record]
  split
  · exact raises_handle _ entry workspace.journal.handlers _
  · exact .ok ()

private theorem raises_call (logger : OwnLogger) (method text : String) :
    Raises IsOutsideFault (call logger method text) := by
  unfold call
  split
  · exact throw .wrongType
  · split
    · exact modify _
    · exact throw .noAttribute

private theorem raises_error (reporter : Reporter) (text : String) :
    Raises IsOutsideFault (error reporter text) := by
  cases reporter with
  | package source => exact raises_record _
  | own logger => exact raises_call logger "error" text

private theorem raises_warning (reporter : Reporter) (text : String) :
    Raises IsOutsideFault (warning reporter text) := by
  cases reporter with
  | package source => exact raises_record _
  | own logger => exact raises_call logger "warning" text

/-! ## Builds -/

private theorem raises_start (valid : options.isValid = true) :
    Raises IsOutsideFault (start options) := by
  have prepares : Raises IsOutsideFault (prepareReporter options) := by
    unfold prepareReporter
    split
    · exact pure _
    · exact get.bind fun _ => (modify _).bind fun _ => pure _
  refine prepares.bind fun reporter => ?_
  refine (Raises.forM fun fault _ => raises_error reporter fault.message).bind fun _ => ?_
  refine (Raises.forM fun text _ => raises_warning reporter text).bind fun _ => ?_
  rw [valid]
  exact pure reporter

private theorem raises_failBuild (reporter : Reporter) (fault : Fault) :
    Raises IsOutsideFault (failBuild reporter fault) :=
  (raises_error reporter _).bind fun _ => (raises_record _).bind fun _ => pure _

private theorem raises_clearDebugFile (reporter : Reporter) :
    Raises IsOutsideFault (clearDebugFile reporter) := by
  cases reporter with
  | own logger => exact pure ()
  | package source =>
      have detaches : Raises IsOutsideFault detachFiles := fun workspace => .ok _
      exact detaches.bind fun files => Raises.forM fun file _ =>
        raises_onDisk fun disk => failsAmong_removeFile disk file

/-- **Valid options are not refused.** Whatever fails in a build with valid options becomes its
outcome, unless the disk refuses the debug file or a method can not be called on a logger. -/
theorem raises_build (valid : options.isValid = true) : Raises IsOutsideFault (build options) := by
  refine (raises_start valid).bind fun reporter => ?_
  -- Nothing is asked of the steps of the build itself, since all that they fail with is caught.
  refine (tryCatch (raises_failBuild reporter)).bind fun outcome => ?_
  split
  · exact (raises_clearDebugFile reporter).bind fun _ => pure outcome
  · exact pure outcome

end ElementWrap.Work
