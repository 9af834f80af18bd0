/-
Module: DawnShell.Proofs.DelegatedDetection
Layer: Proofs
Purpose: Which processes the launcher takes for processes of the delegated subtree.  A line is judged by what
  stands behind its last colon, so that a path with a colon is judged by its end alone.
Trusted boundary: none
Main exports: cgroupPathIsDelegated_iff, processInDelegatedCgroup_iff, JudgedAlike,
  collectDelegatedProcesses_eq, delegated_detection_iff
-/
import DawnShell.Launcher.DelegatedProcesses

namespace DawnShell.Launcher

open CString

section Lines

variable {path : Text} {line : CgroupLine} {lines : List CgroupLine}

/-- The check compares whole components, so that a sibling whose name only begins like the subtree is
outside it. -/
theorem cgroupPathIsDelegated_iff : cgroupPathIsDelegated path = true ↔ InSubtree path := by
  unfold cgroupPathIsDelegated InSubtree
  split
  next relative =>
    rw [Bool.and_eq_true, List.isPrefixOf_iff_prefix, List.cons_append, List.cons_prefix_cons,
      List.cons.injEq]
    simp only [true_and]
    constructor
    · rintro ⟨⟨rest, rfl⟩, separated⟩
      rw [List.drop_left] at separated
      cases rest with
      | nil => exact .inl (List.append_nil _)
      | cons separator rest =>
          rw [beq_iff_eq.mp separated]
          exact .inr ⟨rest, by simp⟩
    · rintro (rfl | ⟨rest, rfl⟩)
      · simp
      · simp
  next other =>
    refine iff_of_false (by simp) ?_
    rintro (rfl | ⟨rest, rfl⟩)
    · exact other _ rfl
    · exact other _ rfl

/-- What a path is judged by: the part behind its last colon. -/
def judged (path : Text) : Text := (strrchr ':' path).getD path

/-- A path without a colon is judged as it is. -/
theorem judged_of_plain (plain : ':' ∉ path) : judged path = path := by
  rw [judged, strrchr_of_notMem plain, Option.getD_none]

/-- Behind the last colon of a line stands what is judged, which is the path only if this has no colon
itself. -/
theorem strrchr_line : strrchr ':' line.text = some (judged line.path) := by
  by_cases colon : ':' ∈ line.path
  · have found : strrchr ':' line.text = strrchr ':' line.path := by
      rw [CgroupLine.text, strrchr_append_of_mem List.mem_cons_self, ← List.singleton_append,
        strrchr_append_of_mem colon]
    have searched : (strrchr ':' line.path).isSome := by simp [strrchr, colon]
    obtain ⟨behind, last⟩ := Option.isSome_iff_exists.mp searched
    rw [found, judged, last, Option.getD_some]
  · rw [judged_of_plain colon]
    exact strrchr_append colon

/-- A line of the file is a token of its own. -/
theorem line_plain : '\n' ∉ line.text ∧ nul ∉ line.text ∧ line.text ≠ [] := by
  have hierarchy := line.hierarchyPlain
  have controllers := line.controllersPlain
  have path := line.pathPlain
  have colon : nul ≠ ':' := by decide
  simp [CgroupLine.text, hierarchy, controllers, path, colon]

/-- The contents of a cgroup file have no byte that would end them early. -/
theorem nul_notMem_cgroupContents : nul ∉ cgroupContents lines := by
  intro member
  obtain ⟨line, -, character⟩ := List.mem_flatMap.mp member
  rcases List.mem_append.mp character with inside | last
  · exact line_plain.2.1 inside
  · exact absurd (List.mem_singleton.mp last) (by decide)

/-- Cutting at newlines gives back the lines. -/
theorem strtok_cgroupContents : strtok '\n' (cgroupContents lines) = lines.map CgroupLine.text := by
  have joined : cgroupContents lines = (lines.map CgroupLine.text).flatMap (· ++ ['\n']) := by
    rw [cgroupContents, List.flatMap_map]
  rw [joined]
  refine strtok_lines (fun text member => ?_) (fun text member => ?_)
  · obtain ⟨line, -, rfl⟩ := List.mem_map.mp member
    exact line_plain.1
  · obtain ⟨line, -, rfl⟩ := List.mem_map.mp member
    exact line_plain.2.2

/-- The process is found when a line is judged to be of the subtree. -/
theorem processInDelegatedCgroup_iff (short : (cgroupContents lines).length < cgroupBufferBytes) :
    processInDelegatedCgroup (some (cgroupContents lines)) = true ↔
      ∃ line ∈ lines, InSubtree (judged line.path) := by
  have whole : (cgroupContents lines).take (cgroupBufferBytes - 1) = cgroupContents lines :=
    List.take_of_length_le (Nat.le_pred_of_lt short)
  simp only [processInDelegatedCgroup, whole, terminated_of_plain nul_notMem_cgroupContents,
    strtok_cgroupContents, List.any_map, List.any_eq_true, Function.comp_apply, strrchr_line,
    cgroupPathIsDelegated_iff]

/-- The paths with a colon do not lead the check astray: a path without one lies in the subtree, or one of
them is judged to lie in it just when one of them does. -/
def JudgedAlike (lines : List CgroupLine) : Prop :=
  (∃ line ∈ lines, ':' ∉ line.path ∧ InSubtree line.path) ∨
    ((∃ line ∈ lines, ':' ∈ line.path ∧ InSubtree (judged line.path)) ↔
      ∃ line ∈ lines, ':' ∈ line.path ∧ InSubtree line.path)

/-- A property of some line is one of a line without a colon or of a line with one. -/
theorem exists_line_iff (holds : CgroupLine → Prop) :
    (∃ line ∈ lines, holds line) ↔
      (∃ line ∈ lines, ':' ∉ line.path ∧ holds line) ∨ ∃ line ∈ lines, ':' ∈ line.path ∧ holds line := by
  constructor
  · rintro ⟨line, member, here⟩
    by_cases colon : ':' ∈ line.path
    · exact .inr ⟨line, member, colon, here⟩
    · exact .inl ⟨line, member, colon, here⟩
  · rintro (⟨line, member, -, here⟩ | ⟨line, member, -, here⟩)
    · exact ⟨line, member, here⟩
    · exact ⟨line, member, here⟩

/-- The judgement is right exactly if the judged paths reach into the subtree when the paths themselves
do. -/
theorem judgedAlike_iff : JudgedAlike lines ↔
    ((∃ line ∈ lines, InSubtree (judged line.path)) ↔ ∃ line ∈ lines, InSubtree line.path) := by
  have plain : (∃ line ∈ lines, ':' ∉ line.path ∧ InSubtree (judged line.path)) ↔
      ∃ line ∈ lines, ':' ∉ line.path ∧ InSubtree line.path := by
    refine exists_congr fun line => and_congr_right fun _ => and_congr_right fun colon => ?_
    rw [judged_of_plain colon]
  rw [JudgedAlike, exists_line_iff fun line => InSubtree (judged line.path),
    exists_line_iff fun line => InSubtree line.path, plain]
  by_cases found : ∃ line ∈ lines, ':' ∉ line.path ∧ InSubtree line.path
  · simp only [found, true_or, iff_self]
  · simp only [found, false_or]

end Lines

/-! ### All processes -/

section Processes

variable {file : Int32 → Option Text} {own : Int32} {capacity : Nat} {names : List Text}

/-- The processes are collected in the order of the directory, as long as there is room. -/
theorem collectDelegatedProcesses_eq :
    collectDelegatedProcesses file own capacity names =
      ((names.filterMap (pidOfName own)).filter fun pid =>
        processInDelegatedCgroup (file pid)).take capacity := by
  induction names generalizing capacity with
  | nil => simp [collectDelegatedProcesses]
  | cons name names ih =>
      cases capacity with
      | zero => simp [collectDelegatedProcesses]
      | succ room =>
          rw [collectDelegatedProcesses]
          cases named : pidOfName own name with
          | none => simp [named, ih]
          | some pid =>
              by_cases found : processInDelegatedCgroup (file pid) = true
              · simp [named, found, ih]
              · simp [named, found, ih]

/-- A round signals the processes that were collected, each once. -/
theorem terminationOrder_perm (pids : List Int32) : (terminationOrder pids).Perm pids := by
  rw [terminationOrder]
  by_cases inside : lowestPid pids < pids.length
  · have split : pids = pids.take (lowestPid pids) ++
        pids[lowestPid pids] :: pids.drop (lowestPid pids + 1) := by simp
    have moved : (pids.eraseIdx (lowestPid pids) ++ [pids[lowestPid pids]]).Perm
        (pids.take (lowestPid pids) ++ pids[lowestPid pids] :: pids.drop (lowestPid pids + 1)) := by
      rw [List.eraseIdx_eq_take_drop_succ]
      exact (List.perm_append_singleton _ _).trans List.perm_middle.symm
    rw [List.getElem?_eq_getElem inside, Option.toList_some]
    exact moved.trans (.of_eq split.symm)
  · have outside := Nat.not_lt.mp inside
    rw [List.getElem?_eq_none outside, List.eraseIdx_of_length_le outside]
    simp

/-- Where no process has paths that lead the check astray, those collected are the first ones of the
subtree, and no round signals another. -/
theorem collected_of_judgedAlike {table : Int32 → List CgroupLine}
    (short : ∀ pid, (cgroupContents (table pid)).length < cgroupBufferBytes)
    (alike : ∀ pid, JudgedAlike (table pid)) (own : Int32) (capacity : Nat) (names : List Text) :
    let found := collectDelegatedProcesses (fun pid => some (cgroupContents (table pid))) own capacity
      names
    found = ((names.filterMap (pidOfName own)).filter fun pid =>
        decide (∃ line ∈ table pid, InSubtree line.path)).take capacity ∧
      ∀ pid ∈ terminationOrder found, ∃ line ∈ table pid, InSubtree line.path := by
  have exact : ∀ pid, processInDelegatedCgroup (some (cgroupContents (table pid))) =
      decide (∃ line ∈ table pid, InSubtree line.path) := by
    intro pid
    rw [Bool.eq_iff_iff, decide_eq_true_iff, processInDelegatedCgroup_iff (short pid)]
    exact judgedAlike_iff.mp (alike pid)
  have found := @collectDelegatedProcesses_eq (fun pid => some (cgroupContents (table pid))) own
    capacity names
  simp only [exact] at found
  refine ⟨found, fun pid signalled => ?_⟩
  have collected := (terminationOrder_perm _).mem_iff.mp signalled
  rw [found] at collected
  exact of_decide_eq_true (List.mem_filter.mp (List.mem_of_mem_take collected)).2

end Processes

/-- The check of one process is exact when, and only when, its paths with a colon do not lead it astray;
and where that is so of every process, exactly the processes of the subtree are collected, in the order of
`/proc` and as long as there is room, and no other is signalled. -/
theorem delegated_detection_iff (table : Int32 → List CgroupLine)
    (short : ∀ pid, (cgroupContents (table pid)).length < cgroupBufferBytes) :
    (∀ pid, (processInDelegatedCgroup (some (cgroupContents (table pid))) = true ↔
        ∃ line ∈ table pid, InSubtree line.path) ↔ JudgedAlike (table pid)) ∧
      ((∀ pid, JudgedAlike (table pid)) → ∀ own capacity names,
        let found := collectDelegatedProcesses (fun pid => some (cgroupContents (table pid))) own
          capacity names
        found = ((names.filterMap (pidOfName own)).filter fun pid =>
            decide (∃ line ∈ table pid, InSubtree line.path)).take capacity ∧
          ∀ pid ∈ terminationOrder found, ∃ line ∈ table pid, InSubtree line.path) := by
  refine ⟨fun pid => ?_, collected_of_judgedAlike short⟩
  rw [judgedAlike_iff, processInDelegatedCgroup_iff (short pid)]

/-- The line of the unified hierarchy for a path. -/
def unifiedLine (path : Text) (absolute : path.head? = some '/')
    (plain : '\n' ∉ path ∧ nul ∉ path) : CgroupLine where
  hierarchy := ['0']
  controllers := []
  path := path
  hierarchyPlain := by decide
  controllersPlain := by decide
  absolute := absolute
  pathPlain := plain

/-- A scope of a process in the subtree, whose name has a colon. -/
def scopeLine : CgroupLine :=
  unifiedLine "/dawnshell/payload/run-r1:2.scope".toList (by decide) (by decide)

/-- A directory of another instance, whose name ends like the root of the subtree. -/
def strangerLine : CgroupLine :=
  unifiedLine "/apps/uid:/dawnshell".toList (by decide) (by decide)

def payloadLine : CgroupLine :=
  unifiedLine "/dawnshell/payload".toList (by decide) (by decide)

theorem delegated_detection_payload :
    ((processInDelegatedCgroup (some (cgroupContents [payloadLine])) = true ↔
        ∃ line ∈ [payloadLine], InSubtree line.path) ↔ JudgedAlike [payloadLine]) ∧
      collectDelegatedProcesses (fun _ => some (cgroupContents [payloadLine])) 1 8
        ["cpuinfo".toList, "1".toList, "42".toList] = [42] := by
  have exact := delegated_detection_iff (fun _ => [payloadLine]) (fun _ => by decide)
  exact ⟨exact.1 42, by decide⟩

/-- A process of the subtree is missed, and a process outside it is found, each because a name behind a
colon is taken for the path. -/
theorem delegated_detection_astray :
    (processInDelegatedCgroup (some (cgroupContents [scopeLine])) = false ∧
      InSubtree scopeLine.path) ∧
    processInDelegatedCgroup (some (cgroupContents [strangerLine])) = true ∧
      ¬InSubtree strangerLine.path := by
  decide

end DawnShell.Launcher
