import Mathlib.Logic.Function.Basic
import ClusterLease.Disk
import ClusterLease.Proofs.Program.Conduct

/-!
Replacing a file over file systems that may fail.

A file system is `Honest` if every call does what it is for or fails, and no call touches files that it does
not name; a call may fail at any time, and one that writes may do so halfway. Over such a file system a
file is replaced by the whole draft or stays as it was, and until then it holds its old content
(`Honest.proceeds_rewrite`).
-/

namespace ClusterLease.Disk

variable {σ : Type}

/-- What the files of a state hold, by their paths. -/
abbrev View (σ : Type) := σ → String → Option (List UInt8)

/-- All files but one are in one state as in the other. -/
def Beside (files : View σ) (path : String) (s t : σ) : Prop := ∀ name ≠ path, files t name = files s name

/-- Every file that there is in one state is in the other one as it was. -/
def Keeps (files : View σ) (s t : σ) : Prop := ∀ name bytes, files s name = some bytes → files t name = some bytes

/-- Calls of a file system touch only the files they name, and what they report as done is done. -/
structure Honest (disk : Answerer interface σ) (files : View σ) : Prop where
  log : ∀ entry s, files (disk (.log entry) s).2 = files s
  read : ∀ path s, files (disk (.read path) s).2 = files s
  read_some : ∀ path s bytes, (disk (.read path) s).1 = some bytes → files s path = some bytes
  make_error : ∀ path s fault, (disk (.makeTemporary path) s).1 = .error fault →
    files (disk (.makeTemporary path) s).2 = files s
  make_ok : ∀ path s name, (disk (.makeTemporary path) s).1 = .ok name → files s name = none ∧
    files (disk (.makeTemporary path) s).2 = Function.update (files s) name (some [])
  append : ∀ path bytes s, Beside files path s (disk (.append path bytes) s).2
  append_ok : ∀ path bytes s old, (disk (.append path bytes) s).1 = .ok () → files s path = some old →
    files (disk (.append path bytes) s).2 path = some (old ++ bytes)
  close : ∀ path s, Beside files path s (disk (.close path) s).2
  close_ok : ∀ path s, (disk (.close path) s).1 = .ok () →
    files (disk (.close path) s).2 path = files s path
  replace_error : ∀ source target s fault, (disk (.replace source target) s).1 = .error fault →
    files (disk (.replace source target) s).2 = files s
  replace_ok : ∀ source target s bytes, (disk (.replace source target) s).1 = .ok () →
    files s source = some bytes → files (disk (.replace source target) s).2 =
      Function.update (Function.update (files s) source none) target (some bytes)
  remove : ∀ path s, Beside files path s (disk (.remove path) s).2

variable {disk : Answerer interface σ} {files : View σ} {temporary path : String} {s t u : σ} {draft : Draft}

theorem Beside.refl (files : View σ) (path : String) (s : σ) : Beside files path s s := fun _ _ => rfl

/-- What two changes leave alone, both together leave alone. -/
theorem Beside.trans (h : Beside files path s t) (hnext : Beside files path t u) : Beside files path s u :=
  fun name hname => (hnext name hname).trans (h name hname)

/-- A file that was not there before is not among those that are kept. -/
theorem Beside.keeps (h : Beside files path s t) (hnew : files s path = none) : Keeps files s t := by
  intro name bytes hname
  have hne : name ≠ path := by
    rintro rfl
    rw [hnew] at hname
    cases hname
  rw [h name hne, hname]

theorem Keeps.refl (files : View σ) (s : σ) : Keeps files s s := fun _ _ h => h

/-- A file that is there is among those that are kept. -/
theorem Keeps.file (h : Keeps files s t) (hsome : (files s path).isSome) : files t path = files s path := by
  obtain ⟨bytes, hbytes⟩ := Option.isSome_iff_exists.1 hsome
  rw [hbytes, h path bytes hbytes]

/-- Where nothing is changed everything is kept. -/
theorem Keeps.of_eq (h : files t = files s) : Keeps files s t := fun name bytes hname => by rw [h, hname]

/-! ### Steps -/

/-- A question proceeds if the rest does, from the state that the answer leaves. -/
theorem proceeds_ask_bind {α : Type} {allowed : σ → Call → Prop} {goal : Except Fault α → σ → Prop} {call : Call}
    {f : interface.Reply call → DiskM α} (hallowed : allowed t call)
    (h : (f (disk call t).1).Proceeds disk allowed goal (disk call t).2) :
    (ask call >>= f).Proceeds disk allowed goal t := ⟨hallowed, h⟩

/-- Pouring pieces into the temporary file touches nothing else, and if it succeeds they are in it after what
was there. -/
theorem Honest.proceeds_pour (h : Honest disk files) (hbeside : Beside files temporary s t) {old : List UInt8}
    (hold : files t temporary = some old) (pieces : List (List UInt8)) :
    (pour temporary pieces).Proceeds disk (fun u _ => Beside files temporary s u)
      (fun outcome u => Beside files temporary s u ∧
        (outcome = .ok () → files u temporary = some (old ++ pieces.flatten))) t := by
  -- By induction on the pieces, for any content before them: only the temporary file ever differs from the
  -- beginning.
  induction pieces generalizing t old with
  | nil => exact ⟨hbeside, fun _ => by rw [hold, List.flatten_nil, List.append_nil]⟩
  | cons piece rest ih =>
    have hnext := hbeside.trans (h.append temporary piece t)
    refine proceeds_ask_bind hbeside (Program.proceeds_ofExcept_bind ?_ ?_)
    · intro _ hok
      refine (ih hnext (h.append_ok temporary piece t old hok hold)).imp ?_
      rintro outcome u ⟨hbeside, hcontent⟩
      refine ⟨hbeside, fun heq => ?_⟩
      rw [hcontent heq, List.flatten_cons, List.append_assoc]
    · intro fault _
      exact ⟨hnext, nofun⟩

/-- What a temporary file holds once it has been filled with a whole draft. -/
def Filled (files : View σ) (temporary : String) (draft : Draft) (outcome : Except Fault Unit) (u : σ) : Prop :=
  outcome = .ok () → draft.fault = none ∧ files u temporary = some draft.pieces.flatten

/-- Writing a draft into an empty file either fills it or stops somewhere on the way. -/
theorem Honest.proceeds_write (h : Honest disk files) (hbeside : Beside files temporary s t)
    (hempty : files t temporary = some []) (draft : Draft) :
    (write temporary draft).Proceeds disk (fun u _ => Beside files temporary s u)
      (fun outcome u => Beside files temporary s u ∧ Filled files temporary draft outcome u) t := by
  refine (h.proceeds_pour hbeside hempty draft.pieces).bind ?_ ?_
  · rintro _ u ⟨hbeside, hcontent⟩
    cases hfault : draft.fault with
    | none => exact ⟨hbeside, fun _ => ⟨hfault, hcontent rfl⟩⟩
    | some fault => exact ⟨hbeside, nofun⟩
  · rintro fault u ⟨hbeside, -⟩
    exact ⟨hbeside, nofun⟩

/-- Closing the file adds nothing to it. -/
theorem Honest.proceeds_fill (h : Honest disk files) (hbeside : Beside files temporary s t)
    (hempty : files t temporary = some []) (draft : Draft) :
    (fill temporary draft).Proceeds disk (fun u _ => Beside files temporary s u)
      (fun outcome u => Beside files temporary s u ∧ Filled files temporary draft outcome u) t := by
  have hwritten : (write temporary draft).attempt.Proceeds disk (fun u _ => Beside files temporary s u)
      (fun written u => ∃ outcome, written = .ok outcome ∧ Beside files temporary s u ∧
        Filled files temporary draft outcome u) t :=
    Program.Proceeds.attempt ((h.proceeds_write hbeside hempty draft).imp fun outcome _ hu => ⟨outcome, rfl, hu⟩)
  refine hwritten.bind ?_ ?_
  · rintro _ u ⟨outcome, heq, hbeside, hfilled⟩
    cases heq
    -- The file is closed whatever became of the writing, and a failure to close counts as one to fill.
    have hclosed := hbeside.trans (h.close temporary u)
    refine proceeds_ask_bind hbeside (Program.proceeds_ofExcept_bind ?_ ?_)
    · intro _ hok
      refine ⟨hclosed, fun heq => ?_⟩
      rw [h.close_ok temporary u hok]
      exact hfilled heq
    · intro fault _
      exact ⟨hclosed, nofun⟩
  · rintro fault u ⟨outcome, heq, -⟩
    cases heq

/-- A file holds a whole draft, and no other file is touched. -/
def Replaced (files : View σ) (path : String) (draft : Draft) (s t : σ) : Prop :=
  draft.fault = none ∧ files t = Function.update (files s) path (some draft.pieces.flatten)

/-- Putting the temporary file in the place of another one makes it as if there had been no temporary file. -/
theorem Honest.replaced (h : Honest disk files) (hnew : files s temporary = none)
    (hbeside : Beside files temporary s t) (hfault : draft.fault = none)
    (hcontent : files t temporary = some draft.pieces.flatten)
    (hok : (disk (.replace temporary path) t).1 = .ok ()) :
    Replaced files path draft s (disk (.replace temporary path) t).2 := by
  refine ⟨hfault, ?_⟩
  have hgone : Function.update (files t) temporary none = files s := by
    funext name
    by_cases hname : name = temporary
    · rw [hname, Function.update_self, hnew]
    · rw [Function.update_of_ne hname, hbeside name hname]
  rw [h.replace_ok temporary path t _ hok hcontent, hgone]

/-- The file takes the place of another one at once, or is removed again. -/
-- What was never there is not missed when it is gone.
theorem Honest.proceeds_install (h : Honest disk files) (hnew : files s temporary = none)
    (hbeside : Beside files temporary s t) (hempty : files t temporary = some []) (path : String) (draft : Draft) :
    (install temporary path draft).Proceeds disk (fun u _ => Beside files temporary s u)
      (fun outcome u => (outcome = .ok () → Replaced files path draft s u) ∧
        ∀ fault, outcome = .error fault → Beside files temporary s u) t := by
  refine (h.proceeds_fill hbeside hempty draft).bind ?_ ?_
  · rintro _ u ⟨hbeside, hfilled⟩
    obtain ⟨hfault, hcontent⟩ := hfilled rfl
    refine proceeds_ask_bind hbeside ⟨?_, ?_⟩
    · exact h.replaced hnew hbeside hfault hcontent
    · intro fault hfailed name hname
      rw [h.replace_error temporary path u fault hfailed, hbeside name hname]
  · rintro fault u ⟨hbeside, -⟩
    exact ⟨nofun, fun _ _ => hbeside⟩

/-- Either a file was replaced by a whole draft, or that failed and every file is kept. -/
inductive AllOrNothing (files : View σ) (path : String) (draft : Draft) (s : σ) : Except Fault Unit → σ → Prop where
  | all {t : σ} (h : Replaced files path draft s t) : AllOrNothing files path draft s (.ok ()) t
  | nothing {t : σ} (fault : Fault) (h : Keeps files s t) : AllOrNothing files path draft s (.error fault) t

/-- A file is replaced by a whole draft or not at all, and until the end all files hold what they held. -/
theorem Honest.proceeds_rewrite (h : Honest disk files) (s : σ) (path : String) (draft : Draft) :
    (rewrite path draft).Proceeds disk (fun u _ => Keeps files s u) (AllOrNothing files path draft s) s := by
  refine proceeds_ask_bind (Keeps.refl files s) (Program.proceeds_ofExcept_bind ?_ ?_)
  · intro temporary hmade
    obtain ⟨hnew, hfiles⟩ := h.make_ok path s temporary hmade
    have hbeside : Beside files temporary s (disk (.makeTemporary path) s).2 := fun name hname => by
      rw [hfiles, Function.update_of_ne hname]
    have hempty : files (disk (.makeTemporary path) s).2 temporary = some [] := by
      rw [hfiles, Function.update_self]
    have hinstalled : (install temporary path draft).attempt.Proceeds disk (fun u _ => Keeps files s u)
        (fun replaced u => ∃ outcome, replaced = .ok outcome ∧ (outcome = .ok () → Replaced files path draft s u) ∧
          ∀ fault, outcome = .error fault → Beside files temporary s u) (disk (.makeTemporary path) s).2 :=
      Program.Proceeds.attempt ((h.proceeds_install hnew hbeside hempty path draft).mono
        (fun _ _ hu => hu.keeps hnew) fun outcome _ hu => ⟨outcome, rfl, hu⟩)
    refine hinstalled.bind ?_ ?_
    · rintro replaced u ⟨outcome, heq, hok, herror⟩
      obtain rfl : replaced = outcome := Except.ok.inj heq
      cases replaced with
      | ok _ => exact .all (hok rfl)
      | error fault =>
        have hbeside := herror fault rfl
        have hremoved := (hbeside.trans (h.remove temporary u)).keeps hnew
        -- Whether or not the temporary file can be removed, it is the only file that differs.
        refine proceeds_ask_bind (hbeside.keeps hnew) (Program.proceeds_ofExcept_bind ?_ ?_)
        · exact fun _ _ => .nothing fault hremoved
        · exact fun other _ => .nothing other hremoved
    · rintro fault u ⟨outcome, heq, -⟩
      cases heq
  · intro fault hfailed
    exact .nothing fault (Keeps.of_eq (h.make_error path s fault hfailed))

/-! ### A machine -/

/-- No name is longer than all of them together, which is why a longer one is not used. -/
theorem length_le_join {names : List String} {name : String} (h : name ∈ names) :
    name.length ≤ (String.join names).length := by
  induction names with
  | nil => cases h
  | cons first rest ih =>
    rw [String.join_cons, String.length_append]
    rcases List.mem_cons.1 h with rfl | hrest
    · omega
    · have := ih hrest
      omega

/-- The unused name is longer than all others, so that it is none of them. -/
theorem get?_unusedName (files : Table (List UInt8)) : files.get? (unusedName files) = none := by
  rw [Table.get?, List.lookup_eq_none_iff]
  intro entry hentry
  have hlength := length_le_join (List.mem_map_of_mem (f := (·.1)) hentry)
  have hne : unusedName files ≠ entry.1 := by
    intro heq
    rw [← heq, unusedName, String.length_append, String.length_append] at hlength
    have hstart : ".meta-".length = 6 := rfl
    omega
  simpa using hne

namespace Machine

/-- What the files of a machine hold. -/
def view : View Machine := fun m name => m.files.get? name

/-- Putting a file changes the view in that place. -/
theorem view_put (m : Machine) (path : String) (bytes : List UInt8) (logs : List Log.Entry) :
    view ⟨m.files.put path bytes, logs⟩ = Function.update (view m) path (some bytes) := by
  funext name
  rw [view, Table.get?_put, Function.update_apply]
  rfl

/-- Erasing a file leaves nothing in that place of the view. -/
theorem view_erase (m : Machine) (path : String) (logs : List Log.Entry) :
    view ⟨m.files.erase path, logs⟩ = Function.update (view m) path none := by
  funext name
  rw [view, Table.get?_erase, Function.update_apply]
  rfl

/-- The machine does as it is told and never fails. -/
theorem honest_answer : Honest Machine.answer view where
  log _ _ := rfl
  read _ _ := rfl
  read_some _ _ _ h := h
  make_error _ _ _ h := nomatch h
  make_ok path m name h := by
    obtain rfl : unusedName m.files = name := Except.ok.inj h
    exact ⟨get?_unusedName m.files, view_put m _ [] m.logs⟩
  append path bytes m name hname := by
    show view ⟨m.files.put path _, m.logs⟩ name = _
    rw [view_put, Function.update_of_ne hname]
  append_ok path bytes m old _ hold := by
    have hget : m.files.get? path = some old := hold
    show view ⟨m.files.put path ((m.files.get? path).getD [] ++ bytes), m.logs⟩ path = _
    rw [view_put, Function.update_self, hget]
    rfl
  close _ _ _ _ := rfl
  close_ok _ _ _ := rfl
  replace_error source target m fault h := by
    rw [Machine.answer] at h ⊢
    cases hget : m.files.get? source with
    | none => rfl
    | some bytes =>
      rw [hget] at h
      cases h
  replace_ok source target m bytes _ hold := by
    have hget : m.files.get? source = some bytes := hold
    rw [Machine.answer, hget]
    dsimp only
    rw [view_put ⟨m.files.erase source, m.logs⟩, view_erase]
  remove path m name hname := by
    rw [Machine.answer]
    cases m.files.get? path with
    | none => rfl
    | some bytes =>
      dsimp only
      rw [view_erase, Function.update_of_ne hname]

variable (m : Machine) (path : String) (bytes : List UInt8)

/-- Logging on the machine only adds to its log. -/
theorem run_logAll (entries : List Log.Entry) (m : Machine) :
    (logAll entries).run Machine.answer m = (.ok (), ⟨m.files, m.logs ++ entries⟩) := by
  induction entries generalizing m with
  | nil => rw [List.append_nil]; rfl
  | cons entry rest ih =>
    show (logAll rest).run Machine.answer ⟨m.files, m.logs ++ [entry]⟩ = _
    rw [ih, List.append_assoc]
    rfl

theorem run_fill_whole : (fill path (.whole bytes)).run Machine.answer m =
    (.ok (), ⟨m.files.put path ((m.files.get? path).getD [] ++ bytes), m.logs⟩) := rfl

theorem run_install_whole (temporary : String) : (install temporary path (.whole bytes)).run Machine.answer m =
    (.ok (), ⟨((m.files.put temporary ((m.files.get? temporary).getD [] ++ bytes)).erase temporary).put path
      ((m.files.get? temporary).getD [] ++ bytes), m.logs⟩) := by
  rw [install, Program.run_bind, run_fill_whole]
  dsimp only
  rw [ask, Program.run_bind, Program.run_question]
  dsimp only [Machine.answer]
  rw [Table.get?_put, if_pos rfl]
  rfl

/-- Nothing goes wrong on a machine: the file has the new content, and nothing is logged. -/
theorem run_rewrite_whole : ∃ files, (rewrite path (.whole bytes)).run Machine.answer m = (.ok (), ⟨files, m.logs⟩) ∧
    files.get? path = some bytes := by
  let temporary := unusedName m.files
  let made : Machine := ⟨m.files.put temporary [], m.logs⟩
  have hempty : (made.files.get? temporary).getD [] ++ bytes = bytes := by
    show ((m.files.put temporary []).get? temporary).getD [] ++ bytes = bytes
    rw [Table.get?_put, if_pos rfl]
    rfl
  have hinstall := run_install_whole made path bytes temporary
  rw [hempty] at hinstall
  refine ⟨((made.files.put temporary bytes).erase temporary).put path bytes, ?_, ?_⟩
  · show Program.run Machine.answer ((install temporary path (.whole bytes)).attempt >>= _) made = _
    rw [Program.run_bind, Program.run_attempt, hinstall]
    rfl
  · rw [Table.get?_put, if_pos rfl]

end Machine

end ClusterLease.Disk
