import PadScript.Proofs.Files.JsonText
import PadScript.Proofs.Files.Written
import PadScript.Sandbox
import PadScript.Settings

/-!
# Settings that were saved

The settings are written as an object with one member for each field, so reading them sets
each field once (`setMembers?_entries`). Any file that cannot be read gives the default
settings, so a value that could not be read back would take the other fields with it.
-/

namespace PadScript

namespace Json.Member

def path (key : String) : Option String → Member
  | none =>
    { key, text := "null", token := .null, value := .null
      read := Token.readFrom_null, whole := fun _ => rfl }
  | some path =>
    { key, text := quote path, token := .string (some path.toList)
      value := .string (some path.toList), read := Token.readFrom_string path
      whole := fun _ => rfl }

def bool (key : String) (b : Bool) : Member :=
  { key, text := toString b, token := .bool b, value := .bool b
    read := Token.readFrom_bool b, whole := fun _ => rfl }

def integer (key : String) (i : Int) : Member :=
  { key, text := toString i, token := .number (toString i).toList
    value := .number (toString i).toList, read := Token.readFrom_number i
    whole := fun _ => rfl }

@[simp] theorem key_path (key : String) (path : Option String) :
    (Member.path key path).key = key := by
  cases path <;> rfl

@[simp] theorem text_path (key : String) (path : Option String) :
    (Member.path key path).text = Settings.pathText path := by
  cases path <;> rfl

end Json.Member

namespace Settings

-- ---------------------------------------------------------------------------
-- Each kind of value
-- ---------------------------------------------------------------------------

theorem pathOfJson?_path (key : String) (path : Option String) :
    pathOfJson? (Json.Member.path key path).value = some path := by
  cases path with
  | none => rfl
  | some path => simp [Json.Member.path, pathOfJson?]

theorem toString_ne_minusZero (i : Int) : (toString i).toList ≠ ['-', '0'] := by
  cases i with
  | ofNat n =>
    rw [Json.Token.toList_toString_ofNat]
    intro h
    have hminus : '-' ∈ Nat.toDigits 10 n := by simp [h]
    exact absurd ((Text.digits_toDigits n).isDigit hminus) (by decide)
  | negSucc n =>
    rw [Json.Token.toList_toString_negSucc]
    obtain ⟨c, more, hmore, hc⟩ := Json.Token.exists_head_toDigits n.succ_pos
    rw [Nat.succ_eq_add_one] at hmore
    rw [hmore]
    intro h
    cases h
    exact hc rfl

theorem timesOfJson?_integer (key : String) (n : Int32) :
    timesOfJson? (Json.Member.integer key n.toInt).value = some n := by
  have hread := (Json.Token.decimal_toString n.toInt).int32?
  rw [Json.Member.integer, timesOfJson?, if_neg (toString_ne_minusZero n.toInt), hread]

-- ---------------------------------------------------------------------------
-- Field by field
-- ---------------------------------------------------------------------------

def member (settings : Settings) : Field → Json.Member
  | .scriptPath => .path Field.scriptPath.name settings.scriptPath
  | .device => .path Field.device.name settings.device
  | .recordOnly => .bool Field.recordOnly.name settings.recordOnly
  | .loopEnabled => .bool Field.loopEnabled.name settings.loopEnabled
  | .loopTimes => .integer Field.loopTimes.name settings.loopTimes.toInt

theorem key_member (settings : Settings) (field : Field) :
    (settings.member field).key = field.name := by
  cases field <;> simp [member, Json.Member.bool, Json.Member.integer]

theorem text_member (settings : Settings) (field : Field) :
    (settings.member field).text = settings.valueText field := by
  cases field <;> simp [member, Json.Member.bool, Json.Member.integer, valueText]

/-- Settings with one field taken from others. -/
def copy (settings source : Settings) : Field → Settings
  | .scriptPath => { settings with scriptPath := source.scriptPath }
  | .device => { settings with device := source.device }
  | .recordOnly => { settings with recordOnly := source.recordOnly }
  | .loopEnabled => { settings with loopEnabled := source.loopEnabled }
  | .loopTimes => { settings with loopTimes := source.loopTimes }

theorem foldl_copy_all (settings source : Settings) :
    Field.all.foldl (·.copy source) settings = source := rfl

theorem set?_member (settings source : Settings) (field : Field) :
    settings.set? field (source.member field).value = some (settings.copy source field) := by
  cases field
  case scriptPath => simp [set?, member, pathOfJson?_path, copy]
  case device => simp [set?, member, pathOfJson?_path, copy]
  case recordOnly => rfl
  case loopEnabled => rfl
  case loopTimes => simp [set?, member, timesOfJson?_integer, copy]

theorem ofName?_name (field : Field) : Field.ofName? field.name = some field := by
  cases field <;> decide

theorem setMembers?_entries (settings source : Settings) {fields seen : List Field}
    (hnodup : fields.Nodup) (hnew : ∀ field ∈ fields, field ∉ seen) :
    settings.setMembers? seen (fields.map fun field => (source.member field).entry) =
      some (fields.foldl (·.copy source) settings) := by
  induction fields generalizing settings seen with
  | nil => rfl
  | cons field fields ih =>
    obtain ⟨hfresh, hnodup⟩ := List.nodup_cons.mp hnodup
    have hrest : ∀ other ∈ fields, other ∉ field :: seen := by
      intro other hother hmem
      rcases List.mem_cons.mp hmem with rfl | hmem
      · exact hfresh hother
      · exact hnew other (List.mem_cons_of_mem _ hother) hmem
    have hname : Field.ofName? (String.ofList (source.member field).key.toList) = some field := by
      rw [String.ofList_toList, key_member, ofName?_name]
    rw [List.map_cons, Json.Member.entry, setMembers?, hname]
    simp only [if_neg (hnew field List.mem_cons_self), set?_member, Option.bind_eq_bind,
      Option.bind_some]
    exact ih _ hnodup hrest

theorem text_eq_lines (settings : Settings) :
    settings.text = "\x7b" ++
      ",".intercalate ((Field.all.map settings.member).map Json.Member.line) ++ "\n\x7d" := by
  have hline (field : Field) : (settings.member field).line =
      "\n  " ++ Json.quote field.name ++ ": " ++ settings.valueText field := by
    rw [Json.Member.line, key_member, text_member]
  rw [text, List.map_map]
  simp only [Function.comp_def, hline]

theorem ofText?_text (settings : Settings) : ofText? settings.text = some settings := by
  have hall : Field.all.Nodup := by decide
  have hnone : ∀ field ∈ Field.all, field ∉ ([] : List Field) := by simp
  have hset := setMembers?_entries {} settings hall hnone
  rw [ofText?, text_eq_lines, Json.parse?_lines (by simp [Field.all]), Option.bind_eq_bind,
    Option.bind_some, ofJson?, List.map_map]
  exact hset.trans (congrArg some (foldl_copy_all {} settings))

-- ---------------------------------------------------------------------------
-- The file
-- ---------------------------------------------------------------------------

theorem save_run (settings : Settings) (path : String) (sandbox : Sandbox) :
    (settings.save path : StateM Sandbox (Except Report Unit)).run sandbox =
      match sandbox.files.writeText (sandbox.pathInTree path) settings.text with
      | .ok files => (.ok (), { sandbox with files })
      | .error fault =>
        (.error ((Report.ofFault fault).within ("failed to write " ++ path)), sandbox) := by
  rw [save, StateT.run_bind, Sandbox.writeText_run]
  cases sandbox.files.writeText (sandbox.pathInTree path) settings.text <;> rfl

theorem read_run (path : String) (sandbox : Sandbox) :
    (read path : StateM Sandbox Settings).run sandbox =
      (load (sandbox.files.readText (sandbox.pathInTree path)), sandbox) := rfl

/-- The text of settings gives the settings back, and so does the file after they were saved:
whatever the paths in them are, and for every number of passes. -/
theorem saved_text_loads (settings : Settings) :
    load (.ok settings.text : Except Fault String) = settings ∧
      ∀ (path : String) (sandbox after : Sandbox),
        (settings.save path : StateM Sandbox (Except Report Unit)).run sandbox =
          (.ok (), after) →
        (read path : StateM Sandbox Settings).run after = (settings, after) := by
  have hload : load (.ok settings.text : Except Fault String) = settings := by
    rw [load, Except.toOption, Option.bind_some, ofText?_text, Option.getD_some]
  refine ⟨hload, fun path sandbox after hsave => ?_⟩
  rw [save_run] at hsave
  split at hsave
  case h_2 => cases hsave
  case h_1 files hwrite =>
    cases hsave
    have hread := Files.readText_of_writeText hwrite
    rw [read_run]
    change (load (files.readText (sandbox.pathInTree path)), _) = _
    rw [hread, hload]

/-- A path with a character of every kind, an empty path, and the lowest number of passes. -/
theorem saved_text_loads_escaped :
    let settings : Settings :=
      { scriptPath := some "C:\\\"ünï\" 🎮\n\x00.txt", device := some "", recordOnly := true
        loopEnabled := true, loopTimes := Int32.minValue }
    let sandbox : Sandbox := { files := ⟨[(["config"], .folder)]⟩ }
    let path := "/work/config/settings.json"
    load (.ok settings.text : Except Fault String) = settings ∧ ∃ after : Sandbox,
      (settings.save path : StateM Sandbox (Except Report Unit)).run sandbox = (.ok (), after) ∧
        (read path : StateM Sandbox Settings).run after = (settings, after) := by
  intro settings sandbox path
  obtain ⟨hload, hread⟩ := saved_text_loads settings
  have hok : (sandbox.files.writeText (sandbox.pathInTree path) settings.text).isOk = true := by
    decide +kernel
  cases hwrite : sandbox.files.writeText (sandbox.pathInTree path) settings.text with
  | error fault =>
    rw [hwrite] at hok
    cases hok
  | ok files =>
    have hsaved := save_run settings path sandbox
    rw [hwrite] at hsaved
    exact ⟨hload, _, hsaved, hread path sandbox _ hsaved⟩

end Settings

end PadScript
