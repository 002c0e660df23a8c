import CallForest.Proofs.Cli.Parts

/-!
# Runs that take up what others left

A run opens its store, and its stages begin on a site (`Begins`). It leaves the store that they
leave, and some more lines in the log (`leftBehind`). A run that begins behind it can begin where it
ended, if what has been saved is there, and nothing else that has been written is read
(`Continues`).
-/

namespace CallForest.Cli

open Ingest (Batch)
open Intake (takeIn)

/-- A run has opened its store, and its stages are to begin on a site. -/
structure Begins (host : Host) (o : Options) (c : Config) (w : Workshop) (fs : FileSystem)
    (site : Site Archive) : Prop where
  config_eq : (Config.loadOrDefault fs o.config).map (configured o) = .ok c
  log_ok : (fs.append c.output.logFile []).2 = .ok ()
  workshop_eq : workshop c host (fs.append c.output.logFile []).1 = w
  directories_ok : (w.logDirectory.create (fs.append c.output.logFile []).1).2 = .ok ()
  opened : openStore (w.logDirectory.create (fs.append c.output.logFile []).1).1
    (o.store.getD "") = (site.files, .ok site.store)
  log_eq : site.log = [.started version]

/-- What a run leaves of the files whose stages have left `fs` and the archive `a`. -/
def leftBehind (o : Options) (c : Config) (fs : FileSystem) (a : Archive) (text : Bytes) :
    FileSystem :=
  ((saveStore fs (o.store.getD "") a).append c.output.logFile text).1

section Begins

variable {host : Host} {o : Options} {ps : List Batch} {c : Config} {w : Workshop}
  {fs : FileSystem} {site : Site Archive}

/-- A run that has begun succeeds if its stages do. -/
theorem runOptions_of_begins (h : Begins host o c w fs site) :
    ((runOptions host o fs).code = 0 ↔ Succeed (stages o c.headers w) site) ∧
      ∃ text, (runOptions host o fs).files =
        leftBehind o c (inOrder (stages o c.headers w) site).1.files
          (inOrder (stages o c.headers w) site).1.store text := by
  obtain ⟨hconfig, hlog, hworkshop, hdirectories, hopened, hstarted⟩ := h
  obtain ⟨archive, files, log⟩ := site
  cases hstarted
  rw [runOptions]
  cases hload : Config.loadOrDefault fs o.config with
  | error e =>
      rw [hload] at hconfig
      cases hconfig
  | ok base =>
      rw [hload] at hconfig
      cases hconfig
      dsimp only
      generalize fs.append _ [] = logged at hlog hworkshop hdirectories hopened
      obtain ⟨logged, _⟩ := logged
      cases hlog
      dsimp only at hworkshop hdirectories hopened ⊢
      unfold perform
      dsimp only
      rw [hworkshop]
      generalize w.logDirectory.create logged = made at hdirectories hopened
      obtain ⟨made, _⟩ := made
      cases hdirectories
      dsimp only at hopened ⊢
      rw [hopened, Succeed]
      dsimp only
      generalize inOrder _ _ = ended
      obtain ⟨left, _ | printed⟩ := ended
      · refine ⟨⟨?_, ?_⟩, _, rfl⟩
        · rintro ⟨⟩
        · rintro ⟨printed, ⟨⟩⟩
      · exact ⟨⟨fun _ => ⟨printed, rfl⟩, fun _ => rfl⟩, _, rfl⟩

/-- A run that succeeds has begun. -/
theorem begins_of_succeeds (h : (runOptions host o fs).code = 0) :
    ∃ c w site, Begins host o c w fs site := by
  rw [runOptions] at h
  cases hload : Config.loadOrDefault fs o.config with
  | error e =>
      rw [hload] at h
      cases h
  | ok base =>
      rw [hload] at h
      dsimp only at h
      generalize hc : configured o base = c at h
      cases hlog : fs.append c.output.logFile [] with
      | mk logged result =>
          rw [hlog] at h
          cases result with
          | error e => cases h
          | ok _ =>
              dsimp only at h
              unfold perform at h
              dsimp only at h
              cases hmade : (workshop c host logged).logDirectory.create logged with
              | mk made result =>
                  rw [hmade] at h
                  cases result with
                  | error e => cases h
                  | ok _ =>
                      dsimp only at h
                      cases hopened : openStore made (o.store.getD "") with
                      | mk files result =>
                          rw [hopened] at h
                          cases result with
                          | error e => cases h
                          | ok archive =>
                              refine ⟨c, workshop c host logged,
                                ⟨archive, files, [.started version]⟩, ?_, ?_, ?_, ?_, ?_, rfl⟩
                              · rw [hload, ← hc]
                                rfl
                              · rw [hlog]
                              · rw [hlog]
                              · rw [hlog, hmade]
                              · rw [hlog, hmade, hopened]

/-- A run of some parts begins as the run of all. -/
theorem begins_only_iff : Begins host (o.only ps) c w fs site ↔ Begins host o c w fs site :=
  ⟨fun h => ⟨h.config_eq, h.log_ok, h.workshop_eq, h.directories_ok, h.opened, h.log_eq⟩,
    fun h => ⟨h.config_eq, h.log_ok, h.workshop_eq, h.directories_ok, h.opened, h.log_eq⟩⟩

end Begins

/-- **Nothing that runs with these options write is read by them, but for the store.** What the
stages of a run leave is `Kept` and makes no difference to its stages. A run that begins behind it
has the same configuration and the same workshop, finds the archive that has been saved, and begins
on a file system that is `Kept`. -/
structure Continues (host : Host) (o : Options) (c : Config) (w : Workshop)
    (Kept : FileSystem → Prop) : Prop extends Undisturbed o c w Kept where
  /-- What has been saved is there when the store is opened again. -/
  saved : ∀ {fs}, Kept fs → ∀ a text, Archive.ofImage? a.image = some a →
    (openStore (leftBehind o c fs a text) (o.store.getD "")).2 = .ok a
  next : ∀ {fs}, Kept fs → ∀ a text, Archive.ofImage? a.image = some a → ∀ {c' w' site},
    Begins host o c' w' (leftBehind o c fs a text) site →
      c' = c ∧ w' = w ∧ site.store = a ∧ Kept site.files

section Undisturbed

variable {host : Host} {o : Options} {c : Config} {w : Workshop} {Kept : FileSystem → Prop}
  {base fs : FileSystem} {site : Site Archive}

/-- A run that has begun leaves its archive with what its parts bring, if it succeeds. It does if
the parts work and the drawing can be made. -/
theorem runOptions_enters (h : Undisturbed o c w Kept) (hbase : Kept base)
    (hbegins : Begins host o c w fs site) (hkept : Kept site.files) :
    let left := takeIn (o.parts.flatMap (brings w o c.headers base)) site.store
    let works := (∀ b ∈ o.parts, Works w o c.headers base b) ∧ Draws o w.logDirectory base left
    ((runOptions host o fs).code = 0 ↔ works) ∧
      (works → ∃ gs text, Kept gs ∧
        (runOptions host o fs).files = leftBehind o c gs left text) := by
  intro left works
  have henters := enters_stages h hbase
  obtain ⟨hcode, text, hfiles⟩ := runOptions_of_begins hbegins
  refine ⟨hcode.trans (henters.succeed_iff site hkept), fun hworks =>
    ⟨_, text, henters.kept site hkept hworks, ?_⟩⟩
  rw [hfiles, henters.store_eq site hkept hworks]

theorem sources_only {ps : List Batch} (filter : HeaderFilter) (fs : FileSystem) {b : Batch}
    (hb : b ∈ ps) : sources (o.only ps) filter fs b = sources o filter fs b := by
  cases b with
  | pass p => rfl
  | headers =>
      have hroot : (o.only ps).indexHeaders = o.indexHeaders := by
        cases hroot : o.indexHeaders <;> simp [Options.only, hroot, hb]
      rw [sources, sources, hroot]

/-- What does not disturb the run of all parts does not disturb those of some. -/
theorem Undisturbed.only (h : Undisturbed o c w Kept) {ps : List Batch}
    (hps : ps.Sublist o.parts) : Undisturbed (o.only ps) c w Kept where
  sources_eq b hb x y hx hy := by
    rw [Options.parts_only hps] at hb
    rw [sources_only _ _ hb, sources_only _ _ hb]
    exact h.sources_eq b (hps.subset hb) hx hy
  repeatable b hb fs hfs entries hentries := by
    rw [Options.parts_only hps] at hb
    rw [sources_only _ _ hb] at hentries
    exact h.repeatable b (hps.subset hb) hfs entries hentries
  drawing := h.drawing

/-- The run of some parts, as `runOptions_enters` has it for all. -/
theorem runOptions_only_enters (h : Undisturbed o c w Kept) (hbase : Kept base)
    (hbegins : Begins host o c w fs site) (hkept : Kept site.files) {ps : List Batch}
    (hps : ps.Sublist o.parts) (hsucceeds : (runOptions host (o.only ps) fs).code = 0) :
    let left := takeIn (ps.flatMap (brings w o c.headers base)) site.store
    (∀ b ∈ ps, Works w o c.headers base b) ∧ Draws o w.logDirectory base left ∧
      ∃ gs text, Kept gs ∧
        (runOptions host (o.only ps) fs).files = leftBehind o c gs left text := by
  have hrun := runOptions_enters (h.only hps) hbase (begins_only_iff.mpr hbegins) hkept
  have hbrings : ps.flatMap (brings w (o.only ps) c.headers base) =
      ps.flatMap (brings w o c.headers base) :=
    List.flatMap_congr fun b hb => by rw [brings, brings, sources_only _ _ hb]
  have hworks : ∀ b ∈ ps, Works w (o.only ps) c.headers base b ↔ Works w o c.headers base b :=
    fun b hb => by rw [Works, Works, sources_only _ _ hb]
  rw [Options.parts_only hps, hbrings, forall₂_congr hworks] at hrun
  have hall := hrun.1.mp hsucceeds
  exact ⟨hall.1, hall.2, hrun.2 hall⟩

end Undisturbed

end CallForest.Cli
