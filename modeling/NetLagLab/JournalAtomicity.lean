import NetLagLab.HostFirewall
import NetLagLab.RecoveryJournal

/-! The journal is atomic. Wherever a write of the journal stands or has died, the directory shows the old record or
the new one, and which of them depends on the rename alone. -/

namespace NetLagLab.NetworkEnvironment

open ByteLines CallPrograms CallPrograms.Program

/-! ### What a directory shows -/

/-- What the file of the record shows. -/
def shownFile (inode : Inode) (expectedOwner : UInt32) : RecoveryReadResult :=
  if inode.kind = .symbolicLink then .failure
  else if validFile inode expectedOwner then (parse inode.content).elim .corrupt .valid
  else .corrupt

/-- What a read sees when its own calls do not fail. -/
def shown (directory : JournalDirectory) (expectedOwner : UInt32) : RecoveryReadResult :=
  if validStatus directory.status expectedOwner then
    match directory.entries recordName with
    | none => .empty
    | some file => shownFile (directory.inodes file) expectedOwner
  else .failure

/-- What a write leaves alone. -/
structure Kept (old now : JournalDirectory) : Prop where
  status : now.status = old.status
  record : ∀ file, old.entries recordName = some file → now.inodes file = old.inodes file

/-- The old record is in place. -/
structure OldInPlace (old now : JournalDirectory) : Prop extends Kept old now where
  entry : now.entries recordName = old.entries recordName

/-- A record file as it is written. -/
def recordFile (user : UInt32) (content : Bytes) : Inode := ⟨.regular, user, 0o600, content⟩

/-- The new record is in place, in a file of its own. -/
structure NewInPlace (old : JournalDirectory) (user : UInt32) (content : Bytes) (file : Nat) (now : JournalDirectory) :
    Prop extends Kept old now where
  fresh : old.entries recordName ≠ some file
  entry : now.entries recordName = some file
  complete : now.inodes file = recordFile user content
  directory : validStatus old.status user = true

abbrev FileStep := Step JournalCall JournalAnswer JournalDirectory

/-- The step that puts the new record in place. -/
def renamed (step : FileStep) : Bool :=
  match step.request, step.answer with
  | .renameat _, answer => answer
  | _, _ => false

/-- What a step of the writer does to the record. -/
structure Guaranteed (old : JournalDirectory) (user : UInt32) (content : Bytes) (step : FileStep) : Prop where
  placed : renamed step = true → OldInPlace old step.before ∧ ∃ file, NewInPlace old user content file step.after
  kept : renamed step = false → OldInPlace old step.before → OldInPlace old step.after
  stays : ∀ file, renamed step = false → NewInPlace old user content file step.before → NewInPlace old user content file step.after

section Shown

variable {old now : JournalDirectory} {user expectedOwner : UInt32} {content : Bytes} {file : Nat}

theorem old_refl (old : JournalDirectory) : OldInPlace old old := ⟨⟨rfl, fun _ _ => rfl⟩, rfl⟩

theorem OldInPlace.not_new (h : OldInPlace old now) : ¬ NewInPlace old user content file now :=
  fun hnew => hnew.fresh (h.entry.symm.trans hnew.entry)

theorem OldInPlace.shown (h : OldInPlace old now) : shown now expectedOwner = shown old expectedOwner := by
  unfold NetworkEnvironment.shown
  rw [h.status, h.entry]
  cases hentry : old.entries recordName with
  | none => rfl
  | some file =>
      dsimp only
      rw [h.record file hentry]

theorem shownFile_recordFile {record : RecoveryRecord} (h : serialize record = some content) :
    shownFile (recordFile user content) user = .valid record := by
  have hsize : content.length ≤ maximumRecordSize := (length_serialize h).trans (by decide)
  have hmode : (0o600 : UInt32) &&& 0o777 = 0o600 := by decide
  have hvalid : validFile (recordFile user content) user = true := by
    simp only [validFile, recordFile, hsize, decide_true, Bool.and_true, Bool.true_and]
    exact decide_eq_true hmode
  rw [shownFile, if_neg (fun hlink => nomatch hlink), if_pos hvalid]
  exact congrArg (Option.elim · _ _) (parse_eq_some_iff.mpr h)

theorem NewInPlace.shown {record : RecoveryRecord} (h : NewInPlace old user content file now)
    (hcontent : serialize record = some content) : shown now user = .valid record := by
  rw [NetworkEnvironment.shown, h.status, if_pos h.directory, h.entry]
  dsimp only
  rw [h.complete, shownFile_recordFile hcontent]

end Shown

/-! ### The writer -/

section Writer

variable {old now after : JournalDirectory} {user expectedOwner : UInt32} {content : Bytes} {file : Nat} {name : Bytes}

/-- A step that leaves the old record in place. -/
theorem guaranteed_old {step : FileStep} (hbefore : OldInPlace old step.before) (hafter : OldInPlace old step.after)
    (h : renamed step = false) : Guaranteed old user content step :=
  ⟨(fun hcontra => nomatch h.symm.trans hcontra), fun _ _ => hafter, fun _ _ hnew => absurd hnew hbefore.not_new⟩

/-- A step that leaves the new record in place. -/
theorem guaranteed_new {step : FileStep} (hbefore : NewInPlace old user content file step.before)
    (hafter : NewInPlace old user content file step.after) (h : renamed step = false) :
    Guaranteed old user content step := by
  refine ⟨(fun hcontra => nomatch h.symm.trans hcontra), fun _ hold => absurd hbefore hold.not_new, fun other _ hother => ?_⟩
  rwa [← Option.some.inj (hbefore.entry.symm.trans hother.entry)]

/-- A step that does nothing. -/
theorem guaranteed_same {step : FileStep} (hsame : step.after = step.before) (h : renamed step = false) :
    Guaranteed old user content step :=
  ⟨(fun hcontra => nomatch h.symm.trans hcontra), fun _ hold => hsame ▸ hold, fun _ _ hnew => hsame ▸ hnew⟩

theorem safe_validDirectory {failing : Bool} :
    Safe (posix failing user) (Guaranteed old user content)
      (fun valid after => after = now ∧ (valid = true → validStatus now.status expectedOwner = true))
      (validDirectory expectedOwner) now := by
  rintro answer after ⟨rfl, hanswer⟩
  refine ⟨guaranteed_same rfl rfl, ?_⟩
  cases answer with
  | none => exact ⟨rfl, fun h => nomatch h⟩
  | some status =>
      refine ⟨rfl, fun hvalid => ?_⟩
      rcases hanswer with ⟨-, hnone⟩ | hstatus
      · exact nomatch hnone
      · rwa [← Option.some.inj hstatus]

/-- A temporary file beside the record. -/
structure Temporary (old : JournalDirectory) (user : UInt32) (name : Bytes) (file : Nat) (now : JournalDirectory) :
    Prop extends OldInPlace old now where
  other : name ≠ recordName
  fresh : old.entries recordName ≠ some file
  named : now.entries name = some file
  regular : (now.inodes file).kind = .regular
  owned : (now.inodes file).owner = user

/-- Other contents and another mode of the temporary file. -/
theorem Temporary.withInode (h : Temporary old user name file now) {inode : Inode} (hkind : inode.kind = .regular)
    (howner : inode.owner = user) : Temporary old user name file (now.withInode file inode) where
  status := h.status
  record := fun other hother => by
    have hdifferent : other ≠ file := fun hsame => h.fresh (hsame ▸ hother)
    rw [JournalDirectory.withInode_of_ne hdifferent]
    exact h.record other hother
  entry := h.entry
  other := h.other
  fresh := h.fresh
  named := h.named
  regular := by rw [JournalDirectory.withInode_self, hkind]
  owned := by rw [JournalDirectory.withInode_self, howner]

theorem temporaryName_ne (pid attempt : Nat) : temporaryName pid attempt ≠ recordName :=
  fun h => absurd (List.cons.inj h).1 (by decide)

theorem safe_createTemporary (pid : Nat) (attempts : List Nat) :
    Safe (posix true user) (Guaranteed old user content)
      (fun created after =>
        match created with
        | none => OldInPlace old after
        | some (name, file) => Temporary old user name file after ∧ (after.inodes file).content = [])
      (createTemporary pid attempts) old := by
  induction attempts with
  | nil => exact old_refl old
  | cons attempt attempts ih =>
      intro answer after hstep
      cases answer with
      | error errno =>
          obtain rfl : after = old := hstep
          refine ⟨guaranteed_same rfl rfl, ?_⟩
          cases errno with
          | «exists» => exact ih
          | _ => exact old_refl after
      | ok file =>
          obtain ⟨hfree, hfresh, mode, rfl⟩ := hstep
          have hother := temporaryName_ne pid attempt
          have htemporary : Temporary old user (temporaryName pid attempt) file
              ((old.withEntry (temporaryName pid attempt) (some file)).withInode file ⟨.regular, user, mode, []⟩) := by
            refine ⟨⟨⟨rfl, fun other hrecord => ?_⟩, ?_⟩, hother, hfresh recordName, ?_, ?_, ?_⟩
            · exact JournalDirectory.withInode_of_ne fun hsame => hfresh recordName (hsame ▸ hrecord)
            · rw [JournalDirectory.withInode_entries, JournalDirectory.withEntry_of_ne (Ne.symm hother)]
            · exact JournalDirectory.withEntry_self
            · rw [JournalDirectory.withInode_self]
            · rw [JournalDirectory.withInode_self]
          exact ⟨guaranteed_old (old_refl old) htemporary.toOldInPlace rfl, htemporary,
            by rw [JournalDirectory.withInode_self]⟩

/-- The writer goes on while the temporary file has part of its contents. -/
theorem Temporary.guaranteed {step : FileStep} (hbefore : Temporary old user name file step.before)
    (hafter : Temporary old user name file step.after) (h : renamed step = false) : Guaranteed old user content step :=
  guaranteed_old hbefore.toOldInPlace hafter.toOldInPlace h

theorem Temporary.appended (h : Temporary old user name file now) (data : Bytes) :
    Temporary old user name file (now.appended file data) := h.withInode h.regular h.owned

/-- The file is complete when no bytes are left. -/
theorem Temporary.complete (h : Temporary old user name file now) (hmode : (now.inodes file).mode = 0o600) :
    now.inodes file = recordFile user (now.inodes file).content := by
  have hkind := h.regular
  have howner := h.owned
  generalize now.inodes file = inode at hkind howner hmode ⊢
  cases inode
  simp only at hkind howner hmode
  rw [hkind, howner, hmode]
  rfl

theorem Temporary.complete_nil (h : Temporary old user name file now) (hmode : (now.inodes file).mode = 0o600)
    {whole : Bytes} (hwhole : (now.inodes file).content ++ [] = whole) : now.inodes file = recordFile user whole := by
  rw [← hwhole, List.append_nil]
  exact h.complete hmode

/-- The whole contents are those that the file has with the bytes that are left to write. -/
theorem safe_writeAll (turns : Nat) (data : Bytes) {whole : Bytes} (h : Temporary old user name file now)
    (hmode : (now.inodes file).mode = 0o600) (hwhole : (now.inodes file).content ++ data = whole) :
    Safe (posix true user) (Guaranteed old user content)
      (fun written after => Temporary old user name file after ∧
        (written = some true → after.inodes file = recordFile user whole))
      (writeAll file turns data) now := by
  induction turns generalizing data now with
  | zero =>
      cases data with
      | nil => exact ⟨h, fun _ => h.complete_nil hmode hwhole⟩
      | cons byte data => exact ⟨h, fun hcontra => nomatch hcontra⟩
  | succ turns ih =>
      cases data with
      | nil => exact ⟨h, fun _ => h.complete_nil hmode hwhole⟩
      | cons byte data =>
          intro answer after hstep
          have hnext : ∀ count, Temporary old user name file (now.appended file ((byte :: data).take count)) :=
            fun count => h.appended _
          have hmodes : ∀ count, ((now.appended file ((byte :: data).take count)).inodes file).mode = 0o600 := by
            intro count
            rw [JournalDirectory.appended, JournalDirectory.withInode_self, hmode]
          have hcontents : ∀ count, ((now.appended file ((byte :: data).take count)).inodes file).content =
              (now.inodes file).content ++ (byte :: data).take count := by
            intro count
            rw [JournalDirectory.appended, JournalDirectory.withInode_self]
          cases answer with
          | ok count =>
              obtain ⟨-, rfl⟩ := hstep
              refine ⟨h.guaranteed (hnext count) rfl, ?_⟩
              cases count with
              | zero => exact ⟨hnext 0, fun hcontra => nomatch hcontra⟩
              | succ count =>
                  refine ih _ (hnext _) (hmodes _) ?_
                  rw [hcontents, List.append_assoc, List.take_append_drop, hwhole]
          | error errno =>
              obtain ⟨count, rfl, hcount⟩ := hstep
              refine ⟨h.guaranteed (hnext count) rfl, ?_⟩
              cases errno with
              | interrupted =>
                  obtain rfl := hcount rfl
                  refine ih _ (hnext 0) (hmodes 0) ?_
                  rw [hcontents, List.take_zero, List.append_nil, hwhole]
              | _ => exact ⟨hnext count, fun hcontra => nomatch hcontra⟩

theorem safe_fillTemporary (turns : Nat) (h : Temporary old user name file now)
    (hempty : (now.inodes file).content = []) :
    Safe (posix true user) (Guaranteed old user content)
      (fun filled after => Temporary old user name file after ∧
        (filled = some true → after.inodes file = recordFile user content))
      (fillTemporary turns file content) now := by
  intro changed after hstep
  rcases hstep with ⟨rfl, rfl⟩ | ⟨rfl, rfl⟩
  · have hmoded : Temporary old user name file (now.withInode file { now.inodes file with mode := 0o600 }) :=
      h.withInode h.regular h.owned
    refine ⟨h.guaranteed hmoded rfl, ?_⟩
    have hmode : ((now.withInode file { now.inodes file with mode := 0o600 }).inodes file).mode = 0o600 := by
      rw [JournalDirectory.withInode_self]
    have hcontents : ((now.withInode file { now.inodes file with mode := 0o600 }).inodes file).content ++ content =
        content := by
      rw [JournalDirectory.withInode_self, hempty, List.nil_append]
    change Safe _ _ _ (writeAll file turns content >>= _) _
    refine safe_bind ((safe_writeAll turns content hmoded hmode hcontents).imp fun written after hwritten => ?_)
    obtain ⟨htemporary, hcomplete⟩ := hwritten
    cases written with
    | none => exact ⟨htemporary, fun hcontra => nomatch hcontra⟩
    | some written =>
        cases written with
        | false => exact ⟨htemporary, fun hcontra => nomatch hcontra⟩
        | true =>
            rintro synced last rfl
            exact ⟨guaranteed_same rfl rfl, htemporary, fun _ => hcomplete rfl⟩
  · exact ⟨guaranteed_same rfl rfl, h, fun hcontra => nomatch hcontra⟩

/-- The temporary file becomes the record. -/
theorem Temporary.placed (h : Temporary old user name file now) (hcomplete : now.inodes file = recordFile user content)
    (hstatus : validStatus old.status user = true) :
    NewInPlace old user content file ((now.withEntry name none).withEntry recordName (some file)) where
  status := h.status
  record := h.record
  fresh := h.fresh
  entry := JournalDirectory.withEntry_self
  complete := hcomplete
  directory := hstatus

theorem OldInPlace.unlinked (h : OldInPlace old now) (hname : name ≠ recordName) :
    OldInPlace old (now.withEntry name none) where
  status := h.status
  record := h.record
  entry := by rw [JournalDirectory.withEntry_of_ne (Ne.symm hname), h.entry]

theorem NewInPlace.unlinked (h : NewInPlace old user content file now) (hname : name ≠ recordName) :
    NewInPlace old user content file (now.withEntry name none) where
  status := h.status
  record := h.record
  fresh := h.fresh
  entry := by rw [JournalDirectory.withEntry_of_ne (Ne.symm hname), h.entry]
  complete := h.complete
  directory := h.directory

/-- A write that gives up and removes its temporary file. -/
theorem safe_unlink (hname : name ≠ recordName)
    (h : OldInPlace old now ∨ ∃ file, NewInPlace old user content file now) {post : Option Bool → JournalDirectory → Prop}
    (hpost : ∀ after, post (some false) after) :
    Safe (posix true user) (Guaranteed old user content) post
      (callJournal (.unlinkat name) >>= fun _ => (pure (some false) : JournalProgram (Option Bool))) now := by
  intro answer after hstep
  refine ⟨?_, hpost after⟩
  cases answer with
  | error errno =>
      obtain ⟨rfl, -⟩ := hstep
      exact guaranteed_same rfl rfl
  | ok done =>
      obtain ⟨-, rfl⟩ := hstep
      rcases h with hold | ⟨file, hnew⟩
      · exact guaranteed_old hold (hold.unlinked hname) rfl
      · exact guaranteed_new hnew (hnew.unlinked hname) rfl

/-- Every step of a write is as guaranteed, and a write that succeeds has put the record in place. -/
theorem safe_writeRecoveryRecord (old : JournalDirectory) (user : UInt32) (turns pid : Nat) {record : RecoveryRecord} (hcontent : serialize record = some content) :
    Safe (posix true user) (Guaranteed old user content)
      (fun result after => result = some true → ∃ file, NewInPlace old user content file after)
      (writeRecoveryRecord turns pid user record) old := by
  unfold writeRecoveryRecord
  rw [hcontent]
  dsimp only
  refine safe_bind (safe_validDirectory.imp fun valid after hvalid => ?_)
  obtain ⟨rfl, hstatus⟩ := hvalid
  cases valid with
  | false => exact fun hcontra => nomatch hcontra
  | true =>
      refine safe_bind ((safe_createTemporary pid (List.range 16)).imp fun created now hcreated => ?_)
      cases created with
      | none => exact fun hcontra => nomatch hcontra
      | some created =>
          obtain ⟨name, file⟩ := created
          obtain ⟨htemporary, hempty⟩ := hcreated
          refine safe_bind ((safe_fillTemporary turns htemporary hempty).imp fun filled now hfilled => ?_)
          obtain ⟨htemporary, hcomplete⟩ := hfilled
          cases filled with
          | none => exact fun hcontra => nomatch hcontra
          | some filled =>
              cases filled with
              | false => exact safe_unlink htemporary.other (Or.inl htemporary.toOldInPlace) fun _ hcontra => nomatch hcontra
              | true =>
                  rintro closed now rfl
                  refine ⟨guaranteed_same rfl rfl, ?_⟩
                  intro placed last hstep
                  cases placed with
                  | false =>
                      obtain rfl : last = now := hstep
                      refine ⟨guaranteed_same rfl rfl, ?_⟩
                      exact safe_unlink htemporary.other (Or.inl htemporary.toOldInPlace) fun _ hcontra => nomatch hcontra
                  | true =>
                      obtain ⟨named, hnamed, rfl⟩ := hstep
                      obtain rfl := Option.some.inj (hnamed.symm.trans htemporary.named)
                      have hnew := htemporary.placed (hcomplete rfl) (hstatus rfl)
                      refine ⟨⟨fun _ => ⟨htemporary.toOldInPlace, _, hnew⟩, (fun hcontra => nomatch hcontra), fun _ hcontra => nomatch hcontra⟩, ?_⟩
                      rintro synced last rfl
                      refine ⟨guaranteed_same rfl rfl, ?_⟩
                      cases synced with
                      | false => exact safe_unlink htemporary.other (Or.inr ⟨_, hnew⟩) fun _ hcontra => nomatch hcontra
                      | true => exact fun _ => ⟨_, hnew⟩

end Writer

/-! ### Paths of the writer -/

section Paths

variable {old now after : JournalDirectory} {user : UInt32} {content : Bytes} {file : Nat}
  {environment : Environment JournalCall JournalAnswer JournalDirectory} {α : Type}
  {program last : JournalProgram α} {trace : List FileStep}

/-- The new record stays. -/
theorem path_new (hpath : Path environment program now trace last after)
    (hall : ∀ step ∈ trace, Guaranteed old user content step) (h : NewInPlace old user content file now) :
    NewInPlace old user content file after := by
  induction hpath with
  | refl program state => exact h
  | step hstep rest ih =>
      obtain ⟨hthis, hrest⟩ := List.forall_mem_cons.mp hall
      refine ih hrest (hthis.stays file ?_ h)
      exact Bool.eq_false_of_not_eq_true fun hrenamed => (hthis.placed hrenamed).1.not_new h

/-- The old record is in place until the rename, and the new one from then on. -/
theorem path_old (hpath : Path environment program now trace last after)
    (hall : ∀ step ∈ trace, Guaranteed old user content step) (h : OldInPlace old now) :
    (∀ step ∈ trace, renamed step = false) ∧ OldInPlace old after ∨
      (∃ step ∈ trace, renamed step = true) ∧ ∃ file, NewInPlace old user content file after := by
  induction hpath with
  | refl program state => exact Or.inl ⟨(fun step hstep => nomatch hstep), h⟩
  | @step request next state middle final answer trace last hstep rest ih =>
      obtain ⟨hthis, hrest⟩ := List.forall_mem_cons.mp hall
      cases hrenamed : renamed ⟨state, request, answer, middle⟩ with
      | true =>
          obtain ⟨-, file, hnew⟩ := hthis.placed hrenamed
          exact Or.inr ⟨⟨_, List.mem_cons_self, hrenamed⟩, file, path_new rest hrest hnew⟩
      | false =>
          rcases ih hrest (hthis.kept hrenamed h) with ⟨hnone, hold⟩ | ⟨⟨step, hstep, hplaced⟩, hnew⟩
          · exact Or.inl ⟨List.forall_mem_cons.mpr ⟨hrenamed, hnone⟩, hold⟩
          · exact Or.inr ⟨⟨step, List.mem_cons_of_mem _ hstep, hplaced⟩, hnew⟩

end Paths

/-! ### A reader beside the writer -/

/-- Before each call of the reader, the writer goes on as far as it likes. -/
def beside (failing : Bool) (user : UInt32) :
    Environment JournalCall JournalAnswer (JournalProgram (Option Bool) × JournalDirectory) :=
  fun before request answer after =>
    ∃ trace now, Path (posix true user) before.1 before.2 trace after.1 now ∧ posix failing user now request answer after.2

/-- The writer at some point of its program. -/
def Writing (start : JournalProgram (Option Bool)) (old : JournalDirectory) (user : UInt32)
    (state : JournalProgram (Option Bool) × JournalDirectory) : Prop :=
  ∃ trace, Path (posix true user) start old trace state.1 state.2

/-- The writer can put the new record in place. -/
def Placeable (start : JournalProgram (Option Bool)) (old : JournalDirectory) (user : UInt32) (content : Bytes) : Prop :=
  ∃ state file, Writing start old user state ∧ NewInPlace old user content file state.2

/-- A file that the reader has opened, with the contents that it had and keeps. -/
def Opened (old : JournalDirectory) (user : UInt32) (content : Bytes) (file : Nat) (inode : Inode)
    (now : JournalDirectory) : Prop :=
  old.entries recordName = some file ∧ inode = old.inodes file ∨
    inode = recordFile user content ∧ NewInPlace old user content file now

section Reader

variable {failing : Bool} {start : JournalProgram (Option Bool)} {old now : JournalDirectory} {user : UInt32}
  {content : Bytes} {file : Nat} {inode : Inode} {before after : JournalProgram (Option Bool) × JournalDirectory}
  {post : Option Bool → JournalDirectory → Prop}

theorem Writing.record (h : Writing start old user before)
    (hsafe : Safe (posix true user) (Guaranteed old user content) post start old) :
    OldInPlace old before.2 ∨ ∃ file, NewInPlace old user content file before.2 := by
  obtain ⟨trace, hpath⟩ := h
  exact (path_old hpath (hsafe.path hpath).1 (old_refl old)).imp And.right And.right

theorem Writing.kept (h : Writing start old user before)
    (hsafe : Safe (posix true user) (Guaranteed old user content) post start old) : Kept old before.2 := by
  rcases h.record hsafe with hold | ⟨file, hnew⟩
  · exact hold.toKept
  · exact hnew.toKept

/-- A call of the reader, behind some steps of the writer. The call does nothing to the directory. -/
theorem beside_cases {request : JournalCall} {answer : JournalAnswer request}
    (hstep : beside failing user before request answer after) (h : Writing start old user before)
    (hsafe : Safe (posix true user) (Guaranteed old user content) post start old)
    (hquiet : ∀ now after, posix failing user now request answer after → after = now) :
    Writing start old user after ∧ posix failing user after.2 request answer after.2 ∧
      ∀ file, NewInPlace old user content file before.2 → NewInPlace old user content file after.2 := by
  obtain ⟨more, now, hmore, hcall⟩ := hstep
  obtain ⟨trace, hpath⟩ := h
  obtain rfl := hquiet now after.2 hcall
  refine ⟨⟨trace ++ more, hpath.trans hmore⟩, hcall, fun file hnew => ?_⟩
  exact path_new hmore ((hsafe.path hpath).2.path hmore).1 hnew

theorem Opened.shown (h : Opened old user content file inode now) (hstart : Writing start old user (before.1, now))
    {record : RecoveryRecord} (hcontent : serialize record = some content)
    (hstatus : validStatus old.status user = true) :
    shownFile inode user = shown old user ∨
      shownFile inode user = .valid record ∧ Placeable start old user content := by
  rcases h with ⟨hentry, rfl⟩ | ⟨rfl, hnew⟩
  · refine Or.inl ?_
    rw [NetworkEnvironment.shown, if_pos hstatus, hentry]
  · exact Or.inr ⟨shownFile_recordFile hcontent, _, file, hstart, hnew⟩

theorem Opened.held (h : Opened old user content file inode now) (hkept : Kept old now) : now.inodes file = inode := by
  rcases h with ⟨hentry, rfl⟩ | ⟨rfl, hnew⟩
  · exact hkept.record file hentry
  · exact hnew.complete

theorem Opened.stays (h : Opened old user content file inode before.2)
    (hstays : ∀ file, NewInPlace old user content file before.2 → NewInPlace old user content file after.2) :
    Opened old user content file inode after.2 :=
  h.imp_right fun hnew => ⟨hnew.1, hstays file hnew.2⟩

/-- The bytes that the reader gets are those of the file that it has opened. -/
theorem safe_readAll {size : Nat} (turns : Nat) (received : Bytes) (h : Writing start old user before)
    (hsafe : Safe (posix true user) (Guaranteed old user content) post start old)
    (hopened : Opened old user content file inode before.2) (hreceived : received <+: inode.content)
    (hsize : inode.content.length < size) :
    Safe (beside failing user) (fun _ => True)
      (fun result after => Writing start old user after ∧ Opened old user content file inode after.2 ∧
        (∀ contents, result = some (some contents) → contents = inode.content) ∧
        (result = some none → failing = true))
      (readAll file size turns received) before := by
  induction turns generalizing received before with
  | zero => exact ⟨h, hopened, (fun _ hcontra => nomatch hcontra), fun hcontra => nomatch hcontra⟩
  | succ turns ih =>
      rw [readAll, if_neg (Nat.not_le.mpr (hreceived.length_le.trans_lt hsize))]
      intro answer after hstep
      refine ⟨trivial, ?_⟩
      cases answer with
      | ok bytes =>
          obtain ⟨hafter, hcall, hstays⟩ := beside_cases hstep h hsafe fun _ _ hcall => hcall.1
          have hstill := hopened.stays hstays
          obtain ⟨-, hbytes, -, hend⟩ := hcall
          rw [hstill.held (hafter.kept hsafe)] at hbytes hend
          obtain ⟨behind, hbehind⟩ := hreceived
          have hdrop : inode.content.drop received.length = behind := by rw [← hbehind, List.drop_left]
          rw [hdrop] at hbytes hend
          cases bytes with
          | nil =>
              refine ⟨hafter, hstill, fun contents hcontents => ?_, fun hcontra => nomatch hcontra⟩
              have hroom : 0 < size - received.length := by
                have hlength := congrArg List.length hbehind
                rw [List.length_append] at hlength
                omega
              rw [← Option.some.inj (Option.some.inj hcontents), ← hbehind, hend rfl hroom, List.append_nil]
          | cons byte bytes =>
              obtain ⟨rest, rfl⟩ := hbytes
              exact ih _ hafter hstill ⟨rest, by rw [← hbehind, List.append_assoc]⟩
      | error errno =>
          obtain ⟨hafter, hcall, hstays⟩ := beside_cases hstep h hsafe fun _ _ hcall => hcall.1
          have hstill := hopened.stays hstays
          cases errno with
          | interrupted => exact ih _ hafter hstill hreceived
          | _ =>
              refine ⟨hafter, hstill, (fun _ hcontra => nomatch hcontra), fun _ => ?_⟩
              exact hcall.2.resolve_right fun hcontra => nomatch hcontra

/-- What a read beside the writer may see. -/
def Seeable (failing : Bool) (start : JournalProgram (Option Bool)) (old : JournalDirectory) (user : UInt32)
    (content : Bytes) (record : RecoveryRecord) (seen : RecoveryReadResult) : Prop :=
  seen = shown old user ∨ seen = .valid record ∧ Placeable start old user content ∨
    failing = true ∧ (seen = .failure ∨ seen = .corrupt)

variable {record : RecoveryRecord}

theorem Opened.seeable (h : Opened old user content file inode now) (hstart : Writing start old user (before.1, now))
    (hcontent : serialize record = some content) (hstatus : validStatus old.status user = true) :
    Seeable failing start old user content record (shownFile inode user) :=
  (h.shown hstart hcontent hstatus).imp_right Or.inl

/-- The read of a file that has been opened. -/
theorem safe_readFile (turns : Nat) (h : Writing start old user before)
    (hsafe : Safe (posix true user) (Guaranteed old user content) post start old)
    (hopened : Opened old user content file inode before.2) (hvalid : validFile inode user = true)
    (hkind : inode.kind ≠ .symbolicLink) (hcontent : serialize record = some content)
    (hstatus : validStatus old.status user = true) :
    Safe (beside failing user) (fun _ => True)
      (fun result _ => ∀ seen, result = some seen → Seeable failing start old user content record seen)
      (readAll file (maximumRecordSize + 1) turns [] >>= fun received =>
        match received with
        | none => pure none
        | some none => pure (some .failure)
        | some (some contents) =>
            if maximumRecordSize < contents.length then pure (some .corrupt)
            else
              match parse contents with
              | some record => pure (some (.valid record))
              | none => (pure (some .corrupt) : JournalProgram (Option RecoveryReadResult)))
      before := by
  have hsize : inode.content.length ≤ maximumRecordSize := by
    rw [validFile, Bool.and_eq_true, decide_eq_true_eq] at hvalid
    exact hvalid.2
  refine safe_bind ((safe_readAll turns [] h hsafe hopened List.nil_prefix (Nat.lt_succ_of_le hsize)).imp
    fun received after hreceived => ?_)
  obtain ⟨hafter, hstill, hcontents, hfailed⟩ := hreceived
  cases received with
  | none => exact fun _ hcontra => nomatch hcontra
  | some received =>
      cases received with
      | none =>
          intro seen hseen
          exact Or.inr (Or.inr ⟨hfailed rfl, Or.inl (Option.some.inj hseen).symm⟩)
      | some contents =>
          obtain rfl := hcontents contents rfl
          have hfile : shownFile inode user = (parse inode.content).elim .corrupt .valid := by
            rw [shownFile, if_neg hkind, if_pos hvalid]
          have hshown : Seeable failing start old user content record _ := hstill.seeable hafter hcontent hstatus
          rw [hfile] at hshown
          dsimp only
          rw [if_neg (Nat.not_lt.mpr hsize)]
          cases hparse : parse inode.content with
          | none =>
              rw [hparse] at hshown
              rintro seen hseen
              obtain rfl := Option.some.inj hseen
              exact hshown
          | some parsed =>
              rw [hparse] at hshown
              rintro seen hseen
              obtain rfl := Option.some.inj hseen
              exact hshown

theorem safe_validBeside (h : Writing start old user before)
    (hsafe : Safe (posix true user) (Guaranteed old user content) post start old) :
    Safe (beside failing user) (fun _ => True)
      (fun valid after => Writing start old user after ∧
        (valid = true → validStatus old.status user = true) ∧
        (valid = false → validStatus old.status user = false ∨ failing = true))
      (validDirectory user) before := by
  intro status after hstep
  refine ⟨trivial, ?_⟩
  obtain ⟨hafter, hcall, -⟩ := beside_cases hstep h hsafe fun _ _ hcall => hcall.1
  rcases hcall.2 with ⟨hfailing, rfl⟩ | rfl
  · exact ⟨hafter, (fun hcontra => nomatch hcontra), fun _ => Or.inr hfailing⟩
  · refine ⟨hafter, fun hvalid => ?_, fun hinvalid => Or.inl ?_⟩
    · rwa [← (hafter.kept hsafe).status]
    · rwa [← (hafter.kept hsafe).status]

/-- The record cannot be opened. -/
theorem seeable_unopened (h : Writing start old user before)
    (hsafe : Safe (posix true user) (Guaranteed old user content) post start old)
    (hstatus : validStatus old.status user = true)
    (hreason : failing = true ∨ ∃ file, before.2.entries recordName = some file ∧
      (before.2.inodes file).kind = .symbolicLink) :
    Seeable failing start old user content record .failure := by
  rcases hreason with hfailing | ⟨file, hentry, hlink⟩
  · exact Or.inr (Or.inr ⟨hfailing, Or.inl rfl⟩)
  · rcases h.record hsafe with hold | ⟨other, hnew⟩
    · have hfile := hold.entry.symm.trans hentry
      rw [hold.record file hfile] at hlink
      refine Or.inl ?_
      rw [shown, if_pos hstatus, hfile]
      exact (if_pos hlink).symm
    · obtain rfl := Option.some.inj (hentry.symm.trans hnew.entry)
      rw [hnew.complete] at hlink
      exact nomatch hlink

/-- The file that is opened is the old record or the new one. -/
theorem opened_record (h : Writing start old user before)
    (hsafe : Safe (posix true user) (Guaranteed old user content) post start old)
    (hentry : before.2.entries recordName = some file) :
    Opened old user content file (before.2.inodes file) before.2 := by
  rcases h.record hsafe with hold | ⟨other, hnew⟩
  · have hfile := hold.entry.symm.trans hentry
    exact Or.inl ⟨hfile, hold.record file hfile⟩
  · obtain rfl := Option.some.inj (hentry.symm.trans hnew.entry)
    exact Or.inr ⟨hnew.complete, hnew⟩

/-- A read beside the writer sees the old record or the new one, or tells that its own calls have failed. -/
theorem safe_readRecoveryRecord (turns : Nat)
    (hsafe : Safe (posix true user) (Guaranteed old user content) post start old)
    (hcontent : serialize record = some content) :
    Safe (beside failing user) (fun _ => True)
      (fun result _ => ∀ seen, result = some seen → Seeable failing start old user content record seen)
      (readRecoveryRecord turns user) (start, old) := by
  have hstart : Writing start old user (start, old) := ⟨[], .refl _ _⟩
  have hfailure : ∀ {seen : RecoveryReadResult}, failing = true → seen = .failure ∨ seen = .corrupt →
      Seeable failing start old user content record seen := fun hfailing hseen => Or.inr (Or.inr ⟨hfailing, hseen⟩)
  refine safe_bind ((safe_validBeside hstart hsafe).imp fun valid before hvalid => ?_)
  obtain ⟨hbefore, hstatus, hinvalid⟩ := hvalid
  cases valid with
  | false =>
      rintro seen hseen
      obtain rfl := Option.some.inj hseen
      rcases hinvalid rfl with hstatus | hfailing
      · refine Or.inl ?_
        rw [shown, hstatus]
        rfl
      · exact hfailure hfailing (Or.inl rfl)
  | true =>
      have hstatus := hstatus rfl
      intro answer after hstep
      refine ⟨trivial, ?_⟩
      cases answer with
      | error errno =>
          obtain ⟨hafter, hcall, -⟩ := beside_cases hstep hbefore hsafe fun _ _ hcall => hcall.1
          obtain ⟨-, hmissing, hreason⟩ := hcall
          cases errno with
          | noEntry =>
              rintro seen hseen
              obtain rfl := Option.some.inj hseen
              refine Or.inl ?_
              have hnone := hmissing rfl
              rcases hafter.record hsafe with hold | ⟨file, hnew⟩
              · rw [shown, if_pos hstatus, ← hold.entry, hnone]
              · exact nomatch hnone.symm.trans hnew.entry
          | _ =>
              rintro seen hseen
              obtain rfl := Option.some.inj hseen
              exact seeable_unopened hafter hsafe hstatus (hreason.imp_right fun hlink =>
                hlink.resolve_left fun hcontra => nomatch hcontra)
      | ok file =>
          obtain ⟨hafter, hcall, -⟩ := beside_cases hstep hbefore hsafe fun _ _ hcall => hcall.1
          obtain ⟨-, hentry, hkind⟩ := hcall
          have hopened := opened_record hafter hsafe hentry
          generalize after.2.inodes file = inode at hkind hopened
          intro answer last hstep
          refine ⟨trivial, ?_⟩
          obtain ⟨hlast, hcall, hstays⟩ := beside_cases hstep hafter hsafe fun _ _ hcall => hcall.1
          have hstill := hopened.stays hstays
          rcases hcall.2 with ⟨hfailing, rfl⟩ | rfl
          · rintro seen hseen
            obtain rfl := Option.some.inj hseen
            exact hfailure hfailing (Or.inr rfl)
          · rw [hstill.held (hlast.kept hsafe)]
            cases hvalid : validFile inode user with
            | false =>
                change Safe _ _ _ (if validFile inode user = false then _ else _) _
                rw [if_pos hvalid]
                rintro seen hseen
                obtain rfl := Option.some.inj hseen
                have hfile : shownFile inode user = .corrupt := by
                  rw [shownFile, if_neg hkind, hvalid]
                  rfl
                exact hfile ▸ hstill.seeable hlast hcontent hstatus
            | true =>
                change Safe _ _ _ (if validFile inode user = false then _ else _) _
                rw [if_neg (by rw [hvalid]; exact Bool.noConfusion)]
                exact safe_readFile turns hlast hsafe hstill hvalid hkind hcontent hstatus

end Reader

/-! ### The journal -/

section Journal

variable {failing : Bool} {old now : JournalDirectory} {user : UInt32} {record : RecoveryRecord}

/-- A clearing leaves the old record or none, and none when it succeeds. -/
theorem safe_clearRecoveryRecord (old : JournalDirectory) (user : UInt32) :
    Safe (posix true user) (fun _ => True)
      (fun cleared after => (shown after user = shown old user ∨ shown after user = .empty) ∧
        (cleared = true → shown after user = .empty)) (clearRecoveryRecord user) old := by
  rintro status after ⟨rfl, hstatus⟩
  refine ⟨trivial, ?_⟩
  rcases hstatus with ⟨-, rfl⟩ | rfl
  · exact ⟨Or.inl rfl, fun hcontra => nomatch hcontra⟩
  change Safe _ _ _ (if (!(validStatus after.status user)) = true then _ else _) _
  cases hvalid : validStatus after.status user with
  | false => exact ⟨Or.inl rfl, fun hcontra => nomatch hcontra⟩
  | true =>
      have hshown : ∀ {now : JournalDirectory}, now.status = after.status → now.entries recordName = none →
          shown now user = .empty := by
        intro now hsame hentry
        rw [shown, hsame, if_pos hvalid, hentry]
      intro answer last hstep
      refine ⟨trivial, ?_⟩
      cases answer with
      | ok done =>
          obtain ⟨-, rfl⟩ := hstep
          have hempty := hshown JournalDirectory.withEntry_status (@JournalDirectory.withEntry_self after recordName none)
          rintro synced last rfl
          exact ⟨trivial, Or.inr hempty, fun _ => hempty⟩
      | error errno =>
          obtain ⟨rfl, hmissing⟩ := hstep
          cases errno with
          | noEntry =>
              have hempty := hshown rfl (hmissing rfl)
              rintro synced last rfl
              exact ⟨trivial, Or.inl rfl, fun _ => hempty⟩
          | _ => exact ⟨Or.inl rfl, fun hcontra => nomatch hcontra⟩

/-- A reader that is alone is beside a writer that has ended. -/
theorem path_alone {α : Type} {program last : JournalProgram α} {trace : List FileStep}
    (h : Path (posix failing user) program old trace last now) :
    ∃ more, Path (beside failing user) program (.done none, old) more last (.done none, now) := by
  induction h with
  | refl program state => exact ⟨[], .refl _ _⟩
  | @step request next state middle final answer trace last hstep rest ih =>
      obtain ⟨more, hmore⟩ := ih
      have hcall : beside failing user (.done none, state) request answer (.done none, middle) :=
        ⟨[], state, .refl _ _, hstep⟩
      exact ⟨_, .step hcall hmore⟩

/-- A read that is alone sees what the directory shows, unless its calls fail. -/
theorem read_alone {turns : Nat} {seen : RecoveryReadResult} {trace : List FileStep}
    (h : Path (posix failing user) (readRecoveryRecord turns user) old trace (.done (some seen)) now) :
    seen = shown old user ∨ failing = true ∧ (seen = .failure ∨ seen = .corrupt) := by
  have hrecord : ∃ content, serialize ⟨.nftables, .intent, List.replicate 32 48⟩ = some content := ⟨_, rfl⟩
  obtain ⟨content, hcontent⟩ := hrecord
  have hsafe : Safe (posix true user) (Guaranteed old user content) (fun _ _ => True)
      (.done none : JournalProgram (Option Bool)) old := trivial
  obtain ⟨more, hpath⟩ := path_alone h
  rcases (safe_readRecoveryRecord turns hsafe hcontent).result hpath seen rfl with hseen | ⟨-, hplaceable⟩ | hfailing
  · exact Or.inl hseen
  · obtain ⟨⟨program, directory⟩, file, ⟨steps, hsteps⟩, hnew⟩ := hplaceable
    cases hsteps
    exact absurd hnew (old_refl _).not_new
  · exact Or.inr hfailing

/-- The directory shows the old record before the rename, and the new one behind it. -/
theorem shown_of_write {turns pid : Nat} {trace : List FileStep} {last : JournalProgram (Option Bool)} {content : Bytes}
    (hcontent : serialize record = some content)
    (hpath : Path (posix true user) (writeRecoveryRecord turns pid user record) old trace last now) :
    (∀ step ∈ trace, renamed step = false) ∧ shown now user = shown old user ∨
      (∃ step ∈ trace, renamed step = true) ∧ shown now user = .valid record := by
  have hsafe := safe_writeRecoveryRecord old user turns pid hcontent
  rcases path_old hpath (hsafe.path hpath).1 (old_refl old) with ⟨hnone, hold⟩ | ⟨hsome, file, hnew⟩
  · exact Or.inl ⟨hnone, hold.shown⟩
  · exact Or.inr ⟨hsome, hnew.shown hcontent⟩

theorem shown_of_success {turns pid : Nat} {trace : List FileStep} {content : Bytes}
    (hcontent : serialize record = some content)
    (hpath : Path (posix true user) (writeRecoveryRecord turns pid user record) old trace (.done (some true)) now) :
    shown now user = .valid record := by
  obtain ⟨file, hnew⟩ := (safe_writeRecoveryRecord old user turns pid hcontent).result hpath rfl
  exact hnew.shown hcontent

/-- The journal answers a read as the connection takes it to. -/
theorem read_journalStep {turns : Nat} {trace : List FileStep} {seen : RecoveryReadResult}
    {journal : Option RecoveryRecord} (hold : shown old user = journal.elim .empty .valid)
    (hpath : Path (posix failing user) (readRecoveryRecord turns user) old trace (.done (some seen)) now) :
    JournalStep .readRecoveryRecord seen journal journal := by
  refine ⟨rfl, ?_⟩
  rcases read_alone hpath with rfl | ⟨-, rfl | rfl⟩
  · rw [hold]
    cases journal with
    | none => rfl
    | some record => rfl
  · trivial
  · trivial

/-- It answers a write so. -/
theorem write_journalStep {turns pid : Nat} {trace : List FileStep} {succeeded : Bool} {journal : Option RecoveryRecord}
    (hvalid : validRecoveryToken record.token = true) (hold : shown old user = journal.elim .empty .valid)
    (hpath : Path (posix true user) (writeRecoveryRecord turns pid user record) old trace (.done (some succeeded)) now) :
    ∃ after : Option RecoveryRecord, shown now user = after.elim .empty .valid ∧
      JournalStep (.writeRecoveryRecord record) succeeded journal after := by
  have hcontent : serialize record = some _ := if_pos hvalid
  cases succeeded with
  | true => exact ⟨some record, shown_of_success hcontent hpath, Or.inl rfl⟩
  | false =>
      rcases shown_of_write hcontent hpath with ⟨-, hsame⟩ | ⟨-, hnew⟩
      · exact ⟨journal, hsame.trans hold, Or.inr ⟨rfl, rfl⟩⟩
      · exact ⟨some record, hnew, Or.inl rfl⟩

/-- It answers a clearing so. -/
theorem clear_journalStep {trace : List FileStep} {succeeded : Bool} {journal : Option RecoveryRecord}
    (hold : shown old user = journal.elim .empty .valid)
    (hpath : Path (posix true user) (clearRecoveryRecord user) old trace (.done succeeded) now) :
    ∃ after : Option RecoveryRecord, shown now user = after.elim .empty .valid ∧
      JournalStep .clearRecoveryRecord succeeded journal after := by
  obtain ⟨hplace, hcleared⟩ := (safe_clearRecoveryRecord old user).result hpath
  cases succeeded with
  | true => exact ⟨none, hcleared rfl, Or.inl rfl⟩
  | false =>
      rcases hplace with hsame | hempty
      · exact ⟨journal, hsame.trans hold, Or.inr ⟨rfl, rfl⟩⟩
      · exact ⟨none, hempty, Or.inl rfl⟩

/-- A directory that shows a journal is that journal of the connection, whichever of the calls on it fail. -/
theorem journal_refines {journal : Option RecoveryRecord} (hold : shown old user = journal.elim .empty .valid) :
    (∀ turns seen trace now, Path (posix true user) (readRecoveryRecord turns user) old trace (.done (some seen)) now →
      JournalStep .readRecoveryRecord seen journal journal) ∧
    (∀ turns pid record succeeded trace now, validRecoveryToken record.token = true →
      Path (posix true user) (writeRecoveryRecord turns pid user record) old trace (.done (some succeeded)) now →
      ∃ after : Option RecoveryRecord, shown now user = after.elim .empty .valid ∧
        JournalStep (.writeRecoveryRecord record) succeeded journal after) ∧
    ∀ succeeded trace now, Path (posix true user) (clearRecoveryRecord user) old trace (.done succeeded) now →
      ∃ after : Option RecoveryRecord, shown now user = after.elim .empty .valid ∧
        JournalStep .clearRecoveryRecord succeeded journal after :=
  ⟨fun _ _ _ _ hpath => read_journalStep hold hpath,
    fun _ _ _ _ _ _ hvalid hpath => write_journalStep hvalid hold hpath,
    fun _ _ _ hpath => clear_journalStep hold hpath⟩

/-- The record in the journal is replaced as a whole, a write that succeeds has replaced it, and one that fails has not
unless it has got as far as the rename. -/
theorem journal_atomic (hvalid : validRecoveryToken record.token = true) (old : JournalDirectory) (user : UInt32)
    (turns pid : Nat) :
    (∀ failing readTurns seen trace after,
      Path (beside failing user) (readRecoveryRecord readTurns user) (writeRecoveryRecord turns pid user record, old)
        trace (.done (some seen)) after →
      seen = shown old user ∨ seen = .valid record ∨ failing = true ∧ (seen = .failure ∨ seen = .corrupt)) ∧
    (∀ trace last now, Path (posix true user) (writeRecoveryRecord turns pid user record) old trace last now →
      (shown now user = shown old user ∨ shown now user = .valid record) ∧
      (last = .done (some true) → shown now user = .valid record) ∧
      (last = .done (some false) → (shown now user = shown old user ↔
        (∀ step ∈ trace, renamed step = false) ∨ shown old user = .valid record))) ∧
    (∀ trace now, Path (posix true user) (clearRecoveryRecord user) old trace (.done true) now →
      shown now user = .empty) ∧
    (∀ readTurns seen trace now,
      Path (posix false user) (readRecoveryRecord readTurns user) old trace (.done (some seen)) now →
      seen = shown old user) ∧
    (∀ contents other, parse contents = some other ↔ serialize other = some contents) ∧
    ∀ other, validRecoveryToken other.token = true → ∃ contents, serialize other = some contents := by
  have hserialize : ∀ other, validRecoveryToken other.token = true → ∃ contents, serialize other = some contents :=
    fun other hother => ⟨_, if_pos hother⟩
  obtain ⟨content, hcontent⟩ := hserialize record hvalid
  have hsafe := safe_writeRecoveryRecord old user turns pid hcontent
  refine ⟨?_, ?_, ?_, ?_, fun _ _ => parse_eq_some_iff, hserialize⟩
  · intro failing readTurns seen trace after hpath
    exact ((safe_readRecoveryRecord readTurns hsafe hcontent).result hpath seen rfl).imp_right (Or.imp_left And.left)
  · intro trace last now hpath
    have hplace := shown_of_write hcontent hpath
    refine ⟨hplace.imp And.right And.right, ?_, ?_⟩
    · rintro rfl
      exact shown_of_success hcontent hpath
    · rintro -
      rcases hplace with ⟨hnone, hsame⟩ | ⟨⟨step, hstep, hrenamed⟩, hnew⟩
      · exact ⟨fun _ => Or.inl hnone, fun _ => hsame⟩
      · rw [hnew]
        refine ⟨fun hsame => Or.inr hsame.symm, ?_⟩
        rintro (hnone | hsame)
        · exact nomatch hrenamed.symm.trans (hnone step hstep)
        · exact hsame.symm
  · intro trace now hpath
    exact ((safe_clearRecoveryRecord old user).result hpath).2 rfl
  · intro readTurns seen trace now hpath
    exact (read_alone hpath).resolve_right fun hfailing => Bool.false_ne_true hfailing.1

end Journal

section Sample

def emptyJournal : JournalDirectory := ⟨⟨true, 0, 0o700⟩, fun _ => none, fun _ => ⟨.other, 0, 0, []⟩⟩

def sampleRecord : RecoveryRecord := ⟨.ufw, .intent, List.replicate 32 48⟩

def sampleContent : Bytes := ascii "version=1\nbackend=ufw\nphase=intent\ntoken=00000000000000000000000000000000\n"

theorem serialize_sampleRecord : serialize sampleRecord = some sampleContent := by decide

def sampleCreated : JournalDirectory :=
  (emptyJournal.withEntry (temporaryName 1 0) (some 7)).withInode 7 ⟨.regular, 0, 0o600, []⟩

def sampleMode : JournalDirectory := sampleCreated.withInode 7 { sampleCreated.inodes 7 with mode := 0o600 }

def sampleFilled : JournalDirectory := sampleMode.appended 7 (sampleContent.take sampleContent.length)

def samplePlaced : JournalDirectory :=
  (sampleFilled.withEntry (temporaryName 1 0) none).withEntry recordName (some 7)

/-- One more step in front of a path. -/
theorem exists_path_call {environment : Environment JournalCall JournalAnswer JournalDirectory} {α : Type}
    {request : JournalCall} {next : JournalAnswer request → JournalProgram α} {answer : JournalAnswer request}
    {state middle : JournalDirectory} {last : JournalProgram α} {P : JournalDirectory → Prop}
    (h : environment state request answer middle)
    (rest : ∃ trace now, Path environment (next answer) middle trace last now ∧ P now) :
    ∃ trace now, Path environment (.call request next) state trace last now ∧ P now := by
  obtain ⟨trace, now, hpath, hnow⟩ := rest
  exact ⟨_, now, .step h hpath, hnow⟩

/-- The directory cannot be brought to the disk behind the rename. -/
theorem write_fails_behind_rename : ∃ trace now,
    Path (posix true 0) (writeRecoveryRecord 1 1 0 sampleRecord) emptyJournal trace (.done (some false)) now ∧
      shown now 0 = .valid sampleRecord := by
  unfold writeRecoveryRecord
  rw [serialize_sampleRecord]
  refine exists_path_call (show posix true 0 emptyJournal .fstatDirectory (some emptyJournal.status) emptyJournal from
    ⟨rfl, Or.inr rfl⟩) ?_
  refine exists_path_call (show posix true 0 emptyJournal (.createExclusive (temporaryName 1 0)) (.ok 7) sampleCreated from
    ⟨rfl, (fun other hother => nomatch hother), _, rfl⟩) ?_
  refine exists_path_call (show posix true 0 sampleCreated (.fchmod 7 0o600) true sampleMode from Or.inl ⟨rfl, rfl⟩) ?_
  refine exists_path_call (show posix true 0 sampleMode (.write 7 sampleContent) (.ok sampleContent.length) sampleFilled from
    ⟨Nat.le_refl _, rfl⟩) ?_
  refine exists_path_call (show posix true 0 sampleFilled (.fsync 7) true sampleFilled from rfl) ?_
  refine exists_path_call (show posix true 0 sampleFilled (.close 7) () sampleFilled from rfl) ?_
  refine exists_path_call (show posix true 0 sampleFilled (.renameat (temporaryName 1 0)) true samplePlaced from
    ⟨7, rfl, rfl⟩) ?_
  refine exists_path_call (show posix true 0 samplePlaced .fsyncDirectory false samplePlaced from rfl) ?_
  refine exists_path_call (show posix true 0 samplePlaced (.unlinkat (temporaryName 1 0)) (.error .other) samplePlaced from
    ⟨rfl, (fun hcontra => nomatch hcontra)⟩) ?_
  exact ⟨[], samplePlaced, .refl _ _, by decide⟩

theorem write_failure_replaces : ¬ ∀ (record : RecoveryRecord) (old now : JournalDirectory) (user : UInt32)
    (turns pid : Nat) (trace : List FileStep), validRecoveryToken record.token = true →
    Path (posix true user) (writeRecoveryRecord turns pid user record) old trace (.done (some false)) now →
    shown now user = shown old user := by
  intro h
  obtain ⟨trace, now, hpath, hnow⟩ := write_fails_behind_rename
  exact nomatch hnow.symm.trans (h sampleRecord emptyJournal now 0 1 1 trace (by decide) hpath)

theorem journal_atomic_fresh : ∃ trace now,
    Path (posix true 0) (writeRecoveryRecord 1 1 0 sampleRecord) emptyJournal trace (.done (some false)) now ∧
      (shown now 0 = shown emptyJournal 0 ↔
        (∀ step ∈ trace, renamed step = false) ∨ shown emptyJournal 0 = .valid sampleRecord) := by
  have hvalid : validRecoveryToken sampleRecord.token = true := by decide
  obtain ⟨trace, now, hpath, -⟩ := write_fails_behind_rename
  obtain ⟨-, hwrite, -⟩ := journal_atomic hvalid emptyJournal 0 1 1
  exact ⟨trace, now, hpath, (hwrite trace (.done (some false)) now hpath).2.2 rfl⟩

end Sample

end NetLagLab.NetworkEnvironment
