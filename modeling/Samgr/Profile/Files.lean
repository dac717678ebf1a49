import Samgr.Profile.WellFormed
import Samgr.Lib.Table

/-! The profile files. The directories of the configuration are gone through one after the other, a
file replaces an earlier one of its name, and what is left is parsed in the order of the names. -/
namespace Samgr

def PREFIX : String := "profile"
def PENGLAI_PATH : String := "profile/penglai"

/-- What a device has of profiles: the files of each directory that a configuration path leads to, and
the JSON values of the files that can be opened and hold one. -/
structure Disk where
  getCfgFiles : String → List (List String)
  checkPengLai : Bool := false
  getRealPath : String → String := fun profilePath => profilePath
  checkPathExist : String → Bool := fun _ => true
  parseJsonObj : String → Option Json

/-- The part of a path behind the last slash. -/
def filename (file : String) : String :=
  String.ofList (file.toList.reverse.takeWhile fun c => c != '/').reverse

/-- `InitSaProfile` passes over files of other kinds. -/
def passedOver (file : String) : Bool :=
  file.isEmpty || !decide (".json".toList <:+: file.toList) ||
    decide ("_trust.json".toList <:+: file.toList)

def endswith (src sub : String) : Bool := sub.toList.isSuffixOf src.toList

namespace ParseUtil

def parseSaProfiles (disk : Disk) (u : ParseUtil) (profilePath : String) : ParseUtil × Option Bool :=
  let realPath := disk.getRealPath profilePath
  if !disk.checkPathExist realPath then (u, some false)
  else if endswith realPath ".json" then
    match disk.parseJsonObj realPath with
    | none => (u, some false)
    | some profileJson => u.parseJsonFile profileJson
  else (u, some false)

/-- The parsing of one value; `false` if it throws. -/
def parseValue (u : ParseUtil) (profileJson : Json) : ParseUtil × Bool :=
  ((u.parseJsonFile profileJson).1, (u.parseJsonFile profileJson).2.isSome)

/-- The profiles that a file declares. -/
def declaredBy (profileJson : Json) : List ParsedProfile :=
  (entriesOf profileJson).filterMap (parsedAlone (processOf profileJson))

def isTagged (entry : Json) : Bool := entry.valueAt Json.toBoolean? "multi-instance" false

def idOf (entry : Json) : Int := entry.valueAt toInt32? "name" 0

/-- The ids that a file makes multi-instance. -/
def instancedBy (profileJson : Json) : List Int :=
  if (entriesOf profileJson).all isTagged then (entriesOf profileJson).map idOf else []

/-- A file with an entry that the parsing throws on. -/
def Throws (profileJson : Json) : Prop := ∃ entry ∈ entriesOf profileJson, Breaks entry

end ParseUtil

namespace ParseUtil

section Value

variable {u : ParseUtil} {entries : List Json} {profileJson : Json}

theorem mem_foldl_insert {saIds : List Int} {saId : Int} {set : Std.TreeSet Int} :
    saId ∈ saIds.foldl (fun set saId => set.insert saId) set ↔ saId ∈ set ∨ saId ∈ saIds := by
  induction saIds generalizing set with
  | nil => simp
  | cons first rest hypothesis =>
      rw [List.foldl_cons, hypothesis, Std.TreeSet.mem_insert, List.mem_cons, compare_eq_iff_eq, eq_comm,
        or_comm (a := saId = first), or_assoc]

theorem multiInstanceIds_eq {tmpSaIds : Std.TreeSet Int} :
    multiInstanceIds tmpSaIds entries =
      .ok (if entries.all isTagged then
          some ((entries.map idOf).foldl (fun saIds saId => saIds.insert saId) tmpSaIds)
        else none) := by
  induction entries generalizing tmpSaIds with
  | nil => rfl
  | cons item items hypothesis =>
      simp only [multiInstanceIds, getBoolFromJson_eq, getInt32FromJson_eq, Json.ok_bind]
      change (if isTagged item = true then multiInstanceIds (tmpSaIds.insert (idOf item)) items
        else .ok none) = _
      cases tag : isTagged item with
      | true =>
          rw [if_pos rfl, hypothesis, List.all_cons, tag, Bool.true_and, List.map_cons, List.foldl_cons]
      | false => simp [tag]

theorem parseMultiInstanceSaIds_spec :
    ∃ listed, u.parseMultiInstanceSaIds (.array entries) = .ok listed ∧
      ∀ saId, saId ∈ listed.multiInstanceSaIds ↔
        saId ∈ u.multiInstanceSaIds ∨ entries.all isTagged = true ∧ saId ∈ entries.map idOf := by
  simp only [parseMultiInstanceSaIds, Json.elements, multiInstanceIds_eq, Json.ok_bind]
  cases tagged : entries.all isTagged with
  | true =>
      refine ⟨_, rfl, fun saId => ?_⟩
      rw [mem_foldl_insert, Std.TreeSet.mem_toList, mem_foldl_insert]
      simp
  | false => exact ⟨u, rfl, fun saId => by simp⟩

theorem run_parseEntry_instanced :
    (Fallible.run parseEntry u entries).1.multiInstanceSaIds = u.multiInstanceSaIds := by
  refine Fallible.run_keeps (fun v : ParseUtil => v.multiInstanceSaIds = u.multiInstanceSaIds) entries ?_ rfl
  intro v entry _ same
  rw [parseEntry]
  split
  · exact same
  · exact same
  · exact same

theorem mem_instancedBy {saId : Int} :
    saId ∈ instancedBy profileJson ↔
      (entriesOf profileJson).all isTagged = true ∧ saId ∈ (entriesOf profileJson).map idOf := by
  rw [instancedBy]
  split
  · rename_i tagged
    simp [tagged]
  · rename_i other
    simp [other]

theorem not_mem_instancedBy {saId : Int} (nothing : entriesOf profileJson = []) :
    saId ∉ instancedBy profileJson := by
  simp [mem_instancedBy, nothing]

theorem parseJsonFile_instanced (returns : (u.parseJsonFile profileJson).2 ≠ none) (saId : Int) :
    saId ∈ (u.parseJsonFile profileJson).1.multiInstanceSaIds ↔
      saId ∈ u.multiInstanceSaIds ∨ saId ∈ instancedBy profileJson := by
  by_cases named : processOf profileJson ≠ "" ∧
      (processOf profileJson).utf8ByteSize ≤ MAX_JSON_STRING_LENGTH
  · have entries : entriesOf profileJson = profileJson.valueAt Json.toArray? "systemability" [] :=
      if_pos named
    have short : ¬ (processOf profileJson).utf8ByteSize > MAX_JSON_STRING_LENGTH :=
      Nat.not_lt.mpr named.2
    have process : getStringFromJson profileJson "process" "" = .ok (processOf profileJson) :=
      getStringFromJson_eq
    cases found : profileJson.find "systemability" with
    | none =>
        have nothing : entriesOf profileJson = [] := by
          rw [entries, Json.valueAt, found]
          rfl
        have whole : u.parseJsonFile profileJson =
            ({ u with procName := processOf profileJson }, some false) := by
          simp only [parseJsonFile, process, if_neg named.1, if_neg short, found]
        simp [whole, not_mem_instancedBy nothing]
    | some value =>
        cases value with
        | array items =>
            have all : entriesOf profileJson = items := by
              rw [entries, Json.valueAt, found]
              rfl
            let parsed := Fallible.run parseEntry { u with procName := processOf profileJson } items
            obtain ⟨listed, lists, ids⟩ := @parseMultiInstanceSaIds_spec parsed.1 items
            have whole : u.parseJsonFile profileJson =
                if parsed.2 then (listed, some !listed.saProfiles.isEmpty) else (parsed.1, none) := by
              simp only [parseJsonFile, process, if_neg named.1, if_neg short, found,
                Json.member_of_find found]
              simp only [parsed] at lists ⊢
              simp only [Json.isArray, Json.elements, if_true, lists]
            have through : parsed.2 = true := by
              cases ended : parsed.2 with
              | true => rfl
              | false => exact absurd (by rw [whole, ended]; rfl) returns
            rw [whole, through, if_pos rfl, ids, run_parseEntry_instanced, mem_instancedBy, all]
        | _ =>
            have nothing : entriesOf profileJson = [] := by
              rw [entries, Json.valueAt, found]
              rfl
            have whole : u.parseJsonFile profileJson =
                ({ u with procName := processOf profileJson }, some false) := by
              simp only [parseJsonFile, process, if_neg named.1, if_neg short, found,
                Json.member_of_find found, Json.isArray]
              rfl
            simp [whole, not_mem_instancedBy nothing]
  · rw [parseJsonFile_unnamed named]
    simp [not_mem_instancedBy (if_neg named)]

theorem parseValue_ends_iff : (u.parseValue profileJson).2 = true ↔ ¬ Throws profileJson := by
  rw [parseValue, Option.isSome_iff_ne_none, Throws]
  push Not
  by_cases named : processOf profileJson ≠ "" ∧
      (processOf profileJson).utf8ByteSize ≤ MAX_JSON_STRING_LENGTH
  · have through := (@run_parseEntry { u with procName := processOf profileJson }
      (entriesOf profileJson) (fits_iff.mpr named)).1
    exact (parseJsonFile_named named).1.trans through
  · have nothing : entriesOf profileJson = [] := if_neg named
    simp [parseJsonFile_unnamed named, nothing]

/-- A value that does not throw adds its profiles and its multi-instance ids. -/
theorem parseValue_adds (ends : (u.parseValue profileJson).2 = true) :
    (u.parseValue profileJson).1.saProfiles = u.saProfiles ++ declaredBy profileJson ∧
      ∀ saId, saId ∈ (u.parseValue profileJson).1.multiInstanceSaIds ↔
        saId ∈ u.multiInstanceSaIds ∨ saId ∈ instancedBy profileJson := by
  have returns : (u.parseJsonFile profileJson).2 ≠ none := Option.isSome_iff_ne_none.mp ends
  refine ⟨?_, parseJsonFile_instanced returns⟩
  by_cases named : processOf profileJson ≠ "" ∧
      (processOf profileJson).utf8ByteSize ≤ MAX_JSON_STRING_LENGTH
  · obtain ⟨through, profiles⟩ := parseJsonFile_named (u := u) named
    have added := (@run_parseEntry { u with procName := processOf profileJson }
      (entriesOf profileJson) (fits_iff.mpr named)).2 (through.mp returns)
    exact profiles.trans added
  · have nothing : entriesOf profileJson = [] := if_neg named
    simp [parseValue, parseJsonFile_unnamed named, declaredBy, nothing]

theorem declaredBy_wellFormed {saProfile : ParsedProfile} (member : saProfile ∈ declaredBy profileJson) :
    saProfile.WellFormed := by
  by_cases named : processOf profileJson ≠ "" ∧
      (processOf profileJson).utf8ByteSize ≤ MAX_JSON_STRING_LENGTH
  · exact parsedAlone_wellFormed (fits_iff.mpr named) member
  · have nothing : entriesOf profileJson = [] := if_neg named
    simp [declaredBy, nothing] at member

end Value

end ParseUtil

namespace Disk

variable (disk : Disk)

def getFilesFromPath (path : String) (fileNamesMap : Std.TreeMap String String) :
    Std.TreeMap String String :=
  (disk.getCfgFiles path).foldl (fun fileNamesMap files => Table.fill filename id fileNamesMap files)
    fileNamesMap

def getFilesByPriority (path : String) : List String :=
  let fileNamesMap := disk.getFilesFromPath path ∅
  Table.left
    (if disk.checkPengLai then disk.getFilesFromPath PENGLAI_PATH fileNamesMap else fileNamesMap)

/-- The step of `InitSaProfile` for one file; `false` if it throws. -/
def readFile (u : ParseUtil) (file : String) : ParseUtil × Bool :=
  if passedOver file then (u, true)
  else
    let parsed := u.parseSaProfiles disk file
    (parsed.1, parsed.2.isSome)

/-- The loop of `InitSaProfile` over the files. -/
def readProfiles : ParseUtil × Bool :=
  Fallible.run disk.readFile {} (disk.getFilesByPriority PREFIX)

/-- The files of a path as they are come by, with those of the other mode behind. -/
def files (path : String) : List String :=
  (disk.getCfgFiles path).flatten ++
    if disk.checkPengLai then (disk.getCfgFiles PENGLAI_PATH).flatten else []

/-- The value that the parser gets to see of a file. -/
def jsonOf (file : String) : Option Json :=
  if !passedOver file && disk.checkPathExist (disk.getRealPath file) &&
      endswith (disk.getRealPath file) ".json" then disk.parseJsonObj (disk.getRealPath file)
  else none

/-- The values of the files that are left, in the order of the names. -/
def profileJsons : List Json := (disk.getFilesByPriority PREFIX).filterMap disk.jsonOf

/-- All profiles of the device, in the order of the files. -/
def declared : List ParsedProfile := disk.profileJsons.flatMap ParseUtil.declaredBy

/-- Some file makes the ability multi-instance. -/
def Instanced (saId : Int) : Prop := ∃ profileJson ∈ disk.profileJsons, saId ∈ ParseUtil.instancedBy profileJson

theorem getFilesFromPath_eq {path : String} {fileNamesMap : Std.TreeMap String String} :
    disk.getFilesFromPath path fileNamesMap =
      Table.fill filename id fileNamesMap (disk.getCfgFiles path).flatten := by
  rw [getFilesFromPath]
  induction disk.getCfgFiles path generalizing fileNamesMap with
  | nil => rfl
  | cons files others hypothesis =>
      rw [List.foldl_cons, hypothesis, List.flatten_cons, Table.fill_append]

theorem getFilesByPriority_eq {path : String} :
    disk.getFilesByPriority path = Table.left (Table.fill filename id ∅ (disk.files path)) := by
  simp only [getFilesByPriority, getFilesFromPath_eq, files]
  split
  · rw [Table.fill_append]
  · rw [List.append_nil]

theorem mem_getFilesByPriority {path file : String} :
    file ∈ disk.getFilesByPriority path ↔
      Table.lastOf filename (filename file) (disk.files path) = some file := by
  rw [getFilesByPriority_eq, Table.mem_left_fill]

theorem readFile_spec {file : String} :
    (disk.jsonOf file = none → ∀ u, disk.readFile u file = (u, true)) ∧
      ∀ profileJson, disk.jsonOf file = some profileJson →
        ∀ u, disk.readFile u file = ParseUtil.parseValue u profileJson := by
  simp only [readFile, jsonOf, ParseUtil.parseSaProfiles]
  by_cases passed : passedOver file = true
  · simp [passed]
  · by_cases there : disk.checkPathExist (disk.getRealPath file) = true
    · by_cases named : endswith (disk.getRealPath file) ".json" = true
      · cases disk.parseJsonObj (disk.getRealPath file) <;> simp [passed, there, named, ParseUtil.parseValue]
      · simp [passed, there, named]
    · simp [passed, there]

theorem readProfiles_eq :
    disk.readProfiles = Fallible.run ParseUtil.parseValue {} disk.profileJsons :=
  Fallible.run_filterMap (fun passed => disk.readFile_spec.1 passed _)
    (fun selected => disk.readFile_spec.2 _ selected _) {} _

theorem readProfiles_adds (ends : disk.readProfiles.2 = true) :
    disk.readProfiles.1.saProfiles = disk.declared ∧
      ∀ saId, saId ∈ disk.readProfiles.1.multiInstanceSaIds ↔ disk.Instanced saId := by
  rw [readProfiles_eq] at ends ⊢
  have added := Fallible.run_taken
    (fun u profileJsons v => v.saProfiles = u.saProfiles ++ profileJsons.flatMap ParseUtil.declaredBy ∧
      ∀ saId, saId ∈ v.multiInstanceSaIds ↔ saId ∈ u.multiInstanceSaIds ∨
        ∃ profileJson ∈ profileJsons, saId ∈ ParseUtil.instancedBy profileJson)
    (fun u => by simp) ?_ ends
  · simpa [declared, Instanced] using added
  · intro u profileJson profileJsons v taken rest
    obtain ⟨profiles, ids⟩ := ParseUtil.parseValue_adds taken
    refine ⟨?_, fun saId => ?_⟩
    · rw [rest.1, profiles, List.append_assoc, List.flatMap_cons]
    · rw [rest.2, ids, or_assoc, List.exists_mem_cons_iff]

theorem declared_wellFormed : ∀ saProfile ∈ disk.declared, saProfile.WellFormed := by
  intro saProfile member
  obtain ⟨profileJson, -, declares⟩ := List.mem_flatMap.mp member
  exact ParseUtil.declaredBy_wellFormed declares

/-- A file is read if no later one has its name, in the order of the names. The start-up ends exactly if
no file throws, and it has then all profiles that the files declare and the ids that they tag. -/
theorem start_up_reads_latest_files :
    (∀ file, file ∈ disk.getFilesByPriority PREFIX ↔
        Table.lastOf filename (filename file) (disk.files PREFIX) = some file) ∧
      (disk.getFilesByPriority PREFIX).Pairwise (fun file other =>
        compare (filename file) (filename other) = .lt) ∧
      (disk.readProfiles.2 = true ↔ ∀ profileJson ∈ disk.profileJsons, ¬ ParseUtil.Throws profileJson) ∧
      (disk.readProfiles.2 = true →
        disk.readProfiles.1.saProfiles = disk.declared ∧
          (∀ saProfile ∈ disk.declared, saProfile.WellFormed) ∧
          ∀ saId, saId ∈ disk.readProfiles.1.multiInstanceSaIds ↔ disk.Instanced saId) := by
  refine ⟨fun file => disk.mem_getFilesByPriority, ?_, ?_, fun ends => ?_⟩
  · rw [getFilesByPriority_eq]
    exact Table.left_fill_pairwise
  · rw [readProfiles_eq]
    exact Fallible.run_ends_iff (fun u profileJson => @ParseUtil.parseValue_ends_iff u profileJson) {} _
  · obtain ⟨profiles, ids⟩ := disk.readProfiles_adds ends
    exact ⟨profiles, disk.declared_wellFormed, ids⟩

end Disk

end Samgr
