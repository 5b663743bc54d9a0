import Mend.Cli.Run
import Mend.Proofs.Engine.Course
import Mend.Proofs.Engine.Enclosure

/-!
# Requests stay in their workspace

The tools that a configuration names report paths of ordinary names, and change what their commands change. All that a
request does beside that is done to the files of its workspace and of the state directory. So what is outside of the
workspace stays as it is, where the state directory is inside (**`kept_inside`**).
-/

namespace Mend

open Fs Fs.Disk Ledger
open Action

/-- What is loaded is valid. -/
theorem Config.validate_of_load {root : Place} {d : Disk} {c : Config} (h : Config.load root d = .ok c) :
    c.validate = .ok () := by
  rw [load] at h
  split at h
  · next text _ =>
    rw [ofText] at h
    split at h
    · cases h
    split at h
    · cases h
    · next hvalid =>
      obtain rfl := Except.ok.inj h
      exact hvalid
  · obtain rfl := Except.ok.inj h
    rfl
  · cases h

/-! ## The tools of a configuration -/

namespace Tools

variable {run : Runner} {root : Place} {c : Config} {t : Tools} {d : Disk}

/-- Commands change files of the workspace only. -/
def Commands (run : Runner) (root : Place) : Prop :=
  ∀ command place d f, run command place d = .ok f → SameOutside root d f.disk

theorem proper_of_ofBytes {content : ByteArray} {report : Report} (h : Stored.ofBytes? content = some report) :
    ∀ i ∈ report.issues, i.file.Proper := by
  rw [Stored.ofBytes?, Option.bind_eq_some_iff] at h
  obtain ⟨j, -, hreport⟩ := h
  exact Json.ensures_report j report hreport

theorem proper_reportFile {p : Place} {report : Report} (h : (reportFile p d).result = .ok report) :
    ∀ i ∈ report.issues, i.file.Proper := by
  rw [reportFile] at h
  dsimp only at h
  split at h
  · cases h
  · cases h
  split at h
  · next r hread =>
    obtain rfl := Except.ok.inj h
    exact proper_of_ofBytes hread
  · cases h

theorem proper_reportCommand {command : Command} {report : Report}
    (h : (reportCommand run root command d).result = .ok report) : ∀ i ∈ report.issues, i.file.Proper := by
  rw [reportCommand] at h
  split at h
  · cases h
  dsimp only at h
  split at h
  · next r hread =>
    obtain rfl := Except.ok.inj h
    exact proper_of_ofBytes hread
  · split at h <;> cases h

theorem Commands.reportCommand (h : Commands run root) (place : Place) (command : Command) (d : Disk) :
    SameOutside root d (Tools.reportCommand run place command d).disk := by
  rw [Tools.reportCommand]
  split
  · exact .refl _ _
  · next hrun => exact h _ _ _ _ hrun

theorem Commands.buildCommand (h : Commands run root) (place : Place) (command : Command) (d : Disk) :
    SameOutside root d (Tools.buildCommand run place command d).disk := by
  rw [Tools.buildCommand]
  split
  · exact .refl _ _
  · next hrun => exact h _ _ _ _ hrun

/-- The tools of a configuration are its commands, and a file that is read. -/
theorem ofConfig_cases (h : ofConfig run root c = .ok t) :
    (∃ command, t.build = buildCommand run root command) ∧
      ((∃ command, t.analyze = fun _ => reportCommand run root command) ∨ ∃ p, t.analyze = fun _ => reportFile p) := by
  rw [ofConfig] at h
  split at h
  · next command _ =>
    obtain rfl := Except.ok.inj h
    refine ⟨⟨command, rfl⟩, ?_⟩
    split
    · next command _ => exact .inl ⟨command, rfl⟩
    · exact .inr ⟨_, rfl⟩
  · cases h

theorem inside_ofConfig (hrun : Commands run root) (h : ofConfig run root c = .ok t) : t.Inside root := by
  obtain ⟨⟨build, hbuild⟩, hanalyze⟩ := ofConfig_cases h
  refine ⟨fun n d => ?_, fun d => ?_⟩
  · rcases hanalyze with ⟨command, hanalyze⟩ | ⟨p, hanalyze⟩
    · rw [hanalyze]
      exact hrun.reportCommand root command d
    · rw [hanalyze]
      exact .refl root d
  · rw [hbuild]
    exact hrun.buildCommand root build d

theorem proper_ofConfig (h : ofConfig run root c = .ok t) {n : Nat} {report : Report}
    (hreport : (t.analyze n d).result = .ok report) : ∀ i ∈ report.issues, i.file.Proper := by
  obtain ⟨-, ⟨command, hanalyze⟩ | ⟨p, hanalyze⟩⟩ := ofConfig_cases h
  · rw [hanalyze] at hreport
    exact proper_reportCommand hreport
  · rw [hanalyze] at hreport
    exact proper_reportFile hreport

end Tools

namespace Engine

variable {run : Runner} {root : Place} {c : Config} {e : Engine}

theorem open_ok (h : Engine.open run root c = .ok e) :
    e.root = root ∧ e.config = c ∧ Tools.ofConfig run root c = .ok e.tools := by
  rw [Engine.open] at h
  obtain ⟨t, htools, h⟩ := bind_ok h
  rw [make] at h
  obtain ⟨_, -, h⟩ := bind_ok h
  obtain ⟨g, -, h⟩ := bind_ok h
  obtain rfl := Except.ok.inj h
  exact ⟨rfl, rfl, htools⟩

end Engine

/-! ## Requests -/

namespace Cli

variable {h : Host} {root : Place} {l : Layout} {d₀ : Disk} {α : Type}

/-- No file outside of the workspace differs from those of a disk. -/
def Session.Inside (root : Place) (d₀ : Disk) (x : Session) : Prop := SameOutside root d₀ x.disk

theorem keeps_say (s : String) : Keeps (Session.Inside root d₀) (say s) := fun _ hx => hx

theorem keeps_complain (s : String) : Keeps (Session.Inside root d₀) (complain s) := fun _ hx => hx

theorem keeps_orFail {ε : Type} (trace : ε → Trace) (r : Except ε α) :
    Keeps (Session.Inside root d₀) (orFail trace r) := keeps_query _

theorem keeps_within {act : Workspace.Step α} (hact : Keeps (Workspace.Enclosed root l d₀) act) :
    Keeps (Session.Inside root d₀) (within h l act) := by
  intro x hx
  rw [within, exec_zoom, exec_mapError]
  exact (hact { Workspace.onDisk l x.disk with held := h.locked }
    ⟨Workspace.placed_onDisk l x.disk h.locked, trivial, fun _ _ d => .refl root d, hx⟩).files

section

variable {d : Disk} {f : Config → Step α}

theorem exec_loadConfig (root : Place) (d : Disk) : (loadConfig root).exec { disk := d } =
    ((Config.load root d).mapError fun e => ("loading configuration for " ++ root.shown) :: configTrace e,
      { disk := d }) := rfl

/-- What is done with the configuration of the workspace. -/
theorem inside_loadConfig (hf : ∀ c, Config.load root d = .ok c → Keeps (Session.Inside root d) (f c)) :
    SameOutside root d ((loadConfig root >>= f).exec { disk := d }).2.disk := by
  rw [exec_bind, exec_loadConfig]
  cases hconfig : Config.load root d with
  | error e => exact .refl _ _
  | ok c => exact hf c hconfig _ (.refl _ _)

/-- Without a configuration nothing is done. -/
theorem disk_loadConfig {e : Config.Error} (h : Config.load root d = .error e) :
    ((loadConfig root >>= f).exec { disk := d }).2.disk = d := by
  rw [exec_bind, exec_loadConfig, h]
  rfl

end

theorem keeps_orFail_bind {β ε : Type} {trace : ε → Trace} {r : Except ε β} {f : β → Step α}
    (hf : ∀ b, r = .ok b → Keeps (Session.Inside root d₀) (f b)) :
    Keeps (Session.Inside root d₀) (orFail trace r >>= f) := by
  intro x hx
  rw [exec_bind, orFail, exec_query]
  cases r with
  | error e => exact hx
  | ok b => exact hf b rfl x hx

theorem inside_runCycle {d : Disk} (hrun : Tools.Commands h.run root)
    (hl : ∀ c, Config.load root d = .ok c → ∀ p ∈ (Layout.of root c.stateDir).places, p.Below root) (o : Overrides)
    (json : Bool) : SameOutside root d ((runCycle h root o json).exec { disk := d }).2.disk := by
  refine inside_loadConfig fun c hload => keeps_orFail_bind fun e hopen => ?_
  obtain ⟨rfl, hconfig, htools⟩ := Engine.open_ok hopen
  have hplaces : ∀ p ∈ e.layout.places, p.Below e.root := by
    rw [Engine.layout, hconfig]
    exact hl c hload
  have hproper : ∀ p, e.Target p → p.Proper := by
    rintro p ⟨n, d, report, hreport, i, hi, rfl⟩
    exact Tools.proper_ofConfig htools hreport i hi
  have hcycle : Keeps (Workspace.Enclosed e.root e.layout d) (e.runCycle h.cycle h.now) :=
    (Engine.invariant_enclosed (Layout.below_iff.mp hplaces) (Tools.inside_ofConfig hrun htools) d).keeps_runCycle
      hproper h.cycle h.now
  refine (keeps_within hcycle.outcome).bind fun r => ?_
  cases r with
  | error err => exact (keeps_complain _).bind fun _ => keeps_pure _
  | ok result =>
    dsimp only
    split
    · exact (keeps_say _).bind fun _ => keeps_pure _
    · exact (Keeps.forM fun s _ => keeps_say s).bind fun _ => keeps_pure _

theorem keeps_restore (hl : resolve [] root.location <+: l.location) (snapshot : Option String) :
    Keeps (Session.Inside root d₀) (restore h root l snapshot) := by
  have hid : Keeps (Session.Inside root d₀) (snapshot.mapM fun s =>
      orFail (fun e : CycleId.Error => ["invalid snapshot id '" ++ s ++ "'", e.message]) (CycleId.parse s)) := by
    cases snapshot with
    | none => exact keeps_pure _
    | some s => exact (keeps_orFail _ _).bind fun _ => keeps_pure _
  have hrestored {act : Action Snapshot.Session Ledger.Error Snapshot.Report}
      (hact : ∀ d store, store.Proper → Keeps (fun x => x.store = store ∧ SameOutside root d x.disk) act) :
      Keeps (Session.Inside root d₀) (within h l (Workspace.locking l.lock (Workspace.onSnapshots act))) :=
    keeps_within (Workspace.Enclosed.keeps_locking hl (Workspace.Enclosed.keeps_onSnapshots hact))
  refine hid.bind fun id => Keeps.bind ?_ fun report => (Keeps.forM fun s _ => keeps_say s).bind fun _ => ?_
  · cases id with
    | some id => exact hrestored fun _ _ hstore => hstore.keeps_restoreId id
    | none => exact hrestored fun _ _ hstore => hstore.keeps_restoreLatest
  · split
    · exact keeps_pure _
    · exact (keeps_complain _).bind fun _ => keeps_pure _

theorem keeps_changeTrust (hl : resolve [] root.location <+: l.location) (c : Config) (recipe : String)
    (disabled : Bool) : Keeps (Session.Inside root d₀) (changeTrust h l c recipe disabled) := by
  refine (keeps_orFail _ _).bind fun g => ?_
  have hsection : Keeps (Workspace.Enclosed root l d₀) (Workspace.locking l.lock do
      Workspace.openTrust
      Workspace.onTrust (Trust.setDisabled recipe disabled)) := by
    refine Workspace.Enclosed.keeps_locking hl ((Workspace.Enclosed.keeps_openTrust hl).bind fun _ => ?_)
    exact Workspace.Enclosed.keeps_onTrust hl fun _ => Trust.keeps_commit _
  have hchanged (line : String) : Keeps (Session.Inside root d₀) (do
      within h l <| Workspace.locking l.lock do
        Workspace.openTrust
        Workspace.onTrust (Trust.setDisabled recipe disabled)
      say line) := (keeps_within hsection).bind fun _ => keeps_say _
  cases Ordered.contains g recipe with
  | false => exact (keeps_throw _).bind fun _ => hchanged _
  | true => exact hchanged _

theorem keeps_listTrust (hl : resolve [] root.location <+: l.location) :
    Keeps (Session.Inside root d₀) (listTrust h l) := by
  have htable : Keeps (Workspace.Enclosed root l d₀) (do
      Workspace.openTrust
      return (← get).trust.table) :=
    (Workspace.Enclosed.keeps_openTrust hl).bind fun _ => keeps_get.bind fun _ => keeps_pure _
  refine (keeps_within htable).bind fun table => ?_
  have hlines : Keeps (Session.Inside root d₀) (do
      List.forM table fun e => say (trustLine e.1 e.2)
      return 0) := (Keeps.forM fun e _ => keeps_say _).bind fun _ => keeps_pure _
  split
  · exact (keeps_say _).bind fun _ => hlines
  · exact hlines

theorem keeps_listSnapshots : Keeps (Session.Inside root d₀) (listSnapshots l) := by
  refine keeps_get.bind fun x => (keeps_orFail _ _).bind fun ids => ?_
  have hlines : Keeps (Session.Inside root d₀) (do
      ids.forM fun id => say (snapshotLine id (Snapshot.Session.load ⟨x.disk, .directory l.snapshots⟩ id))
      return 0) := (Keeps.forM fun e _ => keeps_say _).bind fun _ => keeps_pure _
  split
  · exact (keeps_say _).bind fun _ => hlines
  · exact hlines

theorem keeps_verifyChain : Keeps (Session.Inside root d₀) (verifyChain l) := by
  refine keeps_get.bind fun x => ?_
  dsimp only
  split
  · exact (Keeps.forM fun s _ => keeps_say s).bind fun _ => keeps_pure _
  · exact (keeps_complain _).bind fun _ => keeps_pure _

/-- A request that is carried out changes no file outside of its workspace. -/
theorem inside_carryOut {d : Disk} {r : Request} (hrun : Tools.Commands h.run (h.place.join r.workspace))
    (hl : ∀ c, Config.load (h.place.join r.workspace) d = .ok c →
      ∀ p ∈ (Layout.of (h.place.join r.workspace) c.stateDir).places, p.Below (h.place.join r.workspace)) :
    SameOutside (h.place.join r.workspace) d ((carryOut h r).exec { disk := d }).2.disk := by
  obtain ⟨workspace, logJson, task⟩ := r
  cases task with
  | run o json => exact inside_runCycle hrun hl o json
  | verifyChain => exact inside_loadConfig fun c _ => keeps_verifyChain
  | restore snapshot => exact inside_loadConfig fun c hc => keeps_restore (Layout.below_iff.mp (hl c hc)) snapshot
  | trust change =>
    refine inside_loadConfig fun c hc => ?_
    have hin := Layout.below_iff.mp (hl c hc)
    cases change with
    | none => exact keeps_listTrust hin
    | some change => exact (keeps_changeTrust hin c _ _).bind fun _ => keeps_listTrust hin
  | snapshots => exact inside_loadConfig fun c _ => keeps_listSnapshots

theorem disk_perform {d : Disk} {words : List String} {r : Request} (hwords : parse words = .ok r) :
    (perform h d words).disk = ((carryOut h r).exec { disk := d }).2.disk := by
  rw [perform, hwords]
  dsimp only
  rcases (carryOut h r).exec { disk := d } with ⟨trace | code, x⟩ <;> rfl

theorem disk_refused (d : Disk) (e : Refusal) : (refused d e).disk = d := by cases e <;> rfl

/-- All requests begin with the configuration. -/
theorem exists_carryOut (h : Host) (r : Request) :
    ∃ f, carryOut h r = loadConfig (h.place.join r.workspace) >>= f := by
  obtain ⟨workspace, logJson, task⟩ := r
  cases task <;> exact ⟨_, rfl⟩

/-- A command line that changes something is that of a request, for which a configuration was loaded. -/
theorem loaded_of_changed {d : Disk} {words : List String} (hchanged : (perform h d words).disk ≠ d) :
    ∃ r c, parse words = .ok r ∧ Config.load (h.place.join r.workspace) d = .ok c := by
  cases hwords : parse words with
  | error e =>
    rw [perform, hwords] at hchanged
    exact absurd (disk_refused d e) hchanged
  | ok r =>
    cases hload : Config.load (h.place.join r.workspace) d with
    | ok c => exact ⟨r, c, rfl, hload⟩
    | error e =>
      obtain ⟨f, hf⟩ := exists_carryOut h r
      have hdisk : ((carryOut h r).exec { disk := d }).2.disk = d := by
        rw [hf]
        exact disk_loadConfig hload
      rw [disk_perform hwords] at hchanged
      exact absurd hdisk hchanged

/-! ## All together -/

/-- **What is outside of a workspace stays as it is.** By a valid configuration everything is stored below the workspace
exactly if the steps of its path lead from there back into it, and so in every workspace exactly if the path does not
climb. Where everything is, neither a cycle nor a request changes a file outside, however it ends, as long as the tools
and the others keep to the workspace. A request that changes anything has loaded a valid configuration. -/
theorem kept_inside (c : Config) (hvalid : c.validate = .ok ()) :
    ((∀ root, ∀ p ∈ (Layout.of root c.stateDir).places, p.Below root) ↔ climbs 0 (Place.steps c.stateDir) = false) ∧
    (∀ root, (∀ p ∈ (Layout.of root c.stateDir).places, p.Below root) ↔
      resolve [] root.location <+: resolve (resolve [] root.location) (Place.steps c.stateDir)) ∧
    (∀ root, (∀ p ∈ (Layout.of root c.stateDir).places, p.Below root) →
      (∀ (e : Engine) (id : CycleId) (now : Time) (w : Workspace), e.root = root → e.config = c → e.Housed w →
        SameOutside root w.disk ((e.runCycle id now).exec w).2.disk) ∧
      ∀ (h : Host) (d : Disk) (words : List String) (r : Request), parse words = .ok r →
        h.place.join r.workspace = root → Config.load root d = .ok c → Tools.Commands h.run root →
          SameOutside root d (perform h d words).disk) ∧
    ∀ (h : Host) (d : Disk) (words : List String), (perform h d words).disk ≠ d →
      ∃ r c, parse words = .ok r ∧ Config.load (h.place.join r.workspace) d = .ok c ∧ c.validate = .ok () := by
  refine ⟨Layout.places_below_iff hvalid, fun root => ?_, fun root hplaces => ⟨?_, ?_⟩, fun h d words hchanged => ?_⟩
  · rw [Layout.below_iff, Layout.resolve_of root (Layout.relative_of_validate hvalid).2]
  · rintro e id now w rfl rfl hhoused
    exact Engine.sameOutside_runCycle hhoused hplaces
  · rintro h d words r hwords rfl hload hrun
    rw [disk_perform hwords]
    refine inside_carryOut hrun fun c' hload' => ?_
    obtain rfl := Except.ok.inj (hload.symm.trans hload')
    exact hplaces
  · obtain ⟨r, c, hwords, hload⟩ := loaded_of_changed hchanged
    exact ⟨r, c, hwords, hload, Config.validate_of_load hload⟩

/-- A folder, and a file beside it. -/
def besides : Disk := ⟨[("w", .dir [("a", .file "x\n ".toUTF8 newMode)]), ("b", .file "y\n".toUTF8 newMode)]⟩

/-- Works in the topmost directory, and runs no commands. -/
def idle : Host := ⟨fun _ _ _ => .error .notFound, ⟨[], "/"⟩, default, default, []⟩

theorem housed_passing : Engine.passing.Housed (.onDisk Engine.passing.layout besides) where
  target := by
    rintro p ⟨n, d, report, hreport, i, hi, rfl⟩
    obtain rfl := Except.ok.inj hreport
    dsimp only at hi
    split at hi
    · rw [List.mem_singleton.mp hi]
      exact ⟨"a", rfl⟩
    · cases hi
  tools := ⟨fun _ d => .refl _ d, fun d => .refl _ d⟩
  edits _ _ d := .refl _ d
  placed := Workspace.placed_onDisk _ besides []
  snapshots := trivial

theorem kept_inside_besides :
    ({ stateDir := "a/../.remedy" } : Config).validate = .ok () ∧
      (∀ root, ∀ p ∈ (Layout.of root "a/../.remedy").places, p.Below root) ∧
      ({} : Config).validate = .ok () ∧
      SameOutside Engine.passing.root besides
        ((Engine.passing.runCycle default default).exec (.onDisk Engine.passing.layout besides)).2.disk ∧
      SameOutside (idle.place.join "w") besides
        (perform idle besides ["trust", "w", "--disable", "trailing-whitespace"]).disk := by
  obtain ⟨husual, -, hinside, -⟩ := kept_inside {} rfl
  refine ⟨rfl, (kept_inside { stateDir := "a/../.remedy" } rfl).1.mpr (by decide), rfl, ?_, ?_⟩
  · exact (hinside _ (husual.mpr (by decide) _)).1 Engine.passing default default _ rfl rfl housed_passing
  · exact (hinside _ (husual.mpr (by decide) _)).2 idle besides _
      ⟨"w", false, .trust (some ("trailing-whitespace", true))⟩ rfl rfl rfl nofun

end Cli
end Mend
