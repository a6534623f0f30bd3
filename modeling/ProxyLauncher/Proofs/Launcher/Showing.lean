import ProxyLauncher.Proofs.Config.Dump
import ProxyLauncher.Proofs.Launcher.Steps
import ProxyLauncher.Proofs.Launcher.TwoRuns

/-!
# The configuration in the log

A verbose launcher shows its configuration in the log, one record for each
setting.  Hosts and paths come unchecked from outside, yet no value can break a
line or pass for another one: each record is a single printable line, and the
records together tell the whole configuration.
-/

namespace ProxyLauncher

variable {κ η : Type}

/-- The record that shows a line of the configuration. -/
def shownRecord (line : String) : Log.Record :=
  Log.startupRecord .debug line

namespace Startup

theorem records_map_recording (lines : List String) :
    Journal.records (lines.map (recording .debug) : Journal κ η) = lines.map shownRecord := by
  rw [Journal.records, List.filterMap_map]
  exact congrFun List.filterMap_eq_map lines

theorem records_of_resolved {launch : Launch} {config : Config}
    (resolved : Config.default.resolve launch.arguments launch.environment = .ok config)
    (launcher : Launcher κ η) :
    (resolveConfig launch launcher).journal.records = config.dump.map shownRecord := by
  have lines : Journal.records (showing config : Journal κ η) = config.dump.map shownRecord :=
    records_map_recording config.dump
  have closing : Journal.records ([.stage .configResolved] : Journal κ η) = [] := rfl
  rw [resolveConfig_of_resolved launcher resolved, Journal.records_append, lines, closing,
    List.append_nil]

/-- A verbose log has a line for each detail. -/
theorem errorText_map_recording (time : String) (lines : List String) :
    Journal.errorText time (.configured true)
        (lines.map (recording .debug) ++ [.stage .configResolved] : Journal κ η) =
      String.join (lines.map fun line => (shownRecord line).line time) := by
  induction lines with
  | nil => rfl
  | cons line rest ih =>
      have shown : Journal.errorTextOf time (.configured true)
          (recording .debug line : Entry κ η) = (shownRecord line).line time := by
        change Log.Setup.render _ time (shownRecord line) = _
        rw [shownRecord, Log.Setup.render, Log.Setup.shows_startupRecord]
        rfl
      rw [List.map_cons, List.cons_append, Journal.errorText, shown, List.map_cons]
      change _ ++ Journal.errorText time (.configured true) _ = _
      rw [ih, String.join_cons]

/-- What a verbose launcher shows of its configuration. -/
structure DumpLaw (launch : Launch) (config : Config) (launcher : Launcher κ η) : Prop where
  /-- The records are the lines of the configuration. -/
  records : (resolveConfig launch launcher).journal.records = config.dump.map shownRecord
  /-- There is one for each of the five settings. -/
  five : (resolveConfig launch launcher).journal.records.length = 5
  /-- Each record is written as a line of its own, and nothing else is written. -/
  written : ∀ time setup, (resolveConfig launch launcher).journal.errorText time setup =
    String.join ((resolveConfig launch launcher).journal.records.map (·.line time))
  /-- No record has a character that is not printable. -/
  printable : ∀ record ∈ (resolveConfig launch launcher).journal.records, Printable record.text
  /-- No record has a line break. -/
  unbroken : ∀ record ∈ (resolveConfig launch launcher).journal.records,
    ∀ lineBreak ∈ lineBreaks, lineBreak ∉ record.text.toList
  /-- No other configuration is shown by the same texts. -/
  faithful : ∀ (otherLaunch : Launch) (other : Config) (otherLauncher : Launcher κ η),
    Config.default.resolve otherLaunch.arguments otherLaunch.environment = .ok other →
      other.verbose = true →
        (resolveConfig otherLaunch otherLauncher).journal.records.map (·.text) =
            (resolveConfig launch launcher).journal.records.map (·.text) →
          Config.ShownAlike other config

/-- The configuration of a verbose launcher is shown in printable lines that tell all of it. -/
theorem dump_law {launch : Launch} {config : Config}
    (resolved : Config.default.resolve launch.arguments launch.environment = .ok config)
    (verbose : config.verbose = true) (launcher : Launcher κ η) :
    DumpLaw launch config launcher := by
  have records := records_of_resolved resolved launcher
  have inRange := Config.timeoutInRange_default.resolve resolved
  have printable : ∀ record ∈ (resolveConfig launch launcher).journal.records,
      Printable record.text := by
    rw [records]
    intro record member
    obtain ⟨line, shown, rfl⟩ := List.mem_map.mp member
    obtain ⟨setting, _, rfl⟩ := List.mem_map.mp shown
    exact Config.printable_dumpLine inRange setting
  constructor
  case records => exact records
  case five =>
    rw [records]
    rfl
  case written =>
    intro time setup
    rw [records, List.map_map, resolveConfig_of_resolved launcher resolved]
    have configured : Journal.errorText time setup
        (showing config ++ [.stage .configResolved] : Journal κ η) =
          Journal.errorText time (.configured config.verbose)
            (config.dump.map (recording .debug) ++ [.stage .configResolved] : Journal κ η) :=
      String.empty_append
    rw [configured, verbose]
    exact errorText_map_recording time config.dump
  case printable => exact printable
  case unbroken =>
    intro record member
    exact (printable record member).unbroken
  case faithful =>
    intro otherLaunch other otherLauncher otherResolved _ same
    have texts (lines : List String) : (lines.map shownRecord).map (·.text) = lines := by
      rw [List.map_map]
      exact List.map_id lines
    rw [records_of_resolved otherResolved otherLauncher, records, texts, texts] at same
    exact Config.shownAlike_of_dump (Config.timeoutInRange_default.resolve otherResolved) inRange
      same

/-- A key file with the name `None` is told from a missing one. -/
theorem dump_law_none :
    ∃ config, Config.default.resolve ["-verbose", "-key-file", "None"] (.ofList []) = .ok config ∧
      config.verbose = true ∧
        DumpLaw ⟨["-verbose", "-key-file", "None"], .ofList [], Default.cacheSize⟩ config
          ({} : Launcher Unit Unit) ∧
        (resolveConfig ⟨["-verbose"], .ofList [], Default.cacheSize⟩
            ({} : Launcher Unit Unit)).journal.records.map (·.text) ≠
          (resolveConfig ⟨["-verbose", "-key-file", "None"], .ofList [], Default.cacheSize⟩
            ({} : Launcher Unit Unit)).journal.records.map (·.text) := by
  have resolved : Config.default.resolve ["-verbose", "-key-file", "None"] (.ofList []) =
      .ok (Config.default.overlay .flag [.verbose true, .keyFile (.given "None")]) := rfl
  have law : DumpLaw ⟨["-verbose", "-key-file", "None"], .ofList [], Default.cacheSize⟩ _
      ({} : Launcher Unit Unit) := dump_law resolved rfl {}
  refine ⟨_, resolved, rfl, law, ?_⟩
  intro same
  have otherResolved : Config.default.resolve ["-verbose"] (.ofList []) =
      .ok (Config.default.overlay .flag [.verbose true]) := rfl
  have alike := law.faithful ⟨["-verbose"], .ofList [], Default.cacheSize⟩ _ {} otherResolved rfl same
  cases alike.keyFile

end Startup

end ProxyLauncher
