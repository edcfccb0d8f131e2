import Switchboard.Proofs.PendingFiles
import Switchboard.Proofs.Requests

/-!
# Names of configuration files

Reading puts the name of a file together from an identifier and an extension, and watching takes the
name of a written file apart. The two are inverse to each other (`Watcher.names_are_read_back`):
what is found for an identifier is a file whose writes are told to those who wait for that
identifier, and no file is found for two identifiers. In the other direction every file of a known
extension, however its letters are written, stands for the name in front of its last dot.

Dots in an identifier do no harm, wherever they stand: what is appended ends in the last dot of the
name, and something stands in front of it.
-/

namespace Switchboard

namespace FilePath

/-! ## Taking names apart -/

theorem splitAll_of_absent {sep : Char} {cs : List Char} (h : sep ∉ cs) :
    splitAll (· == sep) cs = [cs] :=
  splitAll_of_none fun _ hc => beq_eq_false_iff_ne.mpr (ne_of_mem_of_not_mem hc h)

/-- What has an extension is what stands in front of its last dot, the dot and the extension. -/
theorem eq_append_of_splitName {name front ext : List Char}
    (h : splitName name = (front, some ext)) :
    name = front ++ '.' :: ext ∧ front ≠ [] ∧ '.' ∉ ext := by
  by_cases dotted : '.' ∈ name
  · -- Division at the last dot is division of the reversed name at its first.
    obtain ⟨back, rest, hname, hback⟩ :=
      List.eq_append_cons_of_mem (List.mem_reverse.mpr dotted)
    have divided : name = rest.reverse ++ '.' :: back.reverse := by
      rw [← List.reverse_reverse name, hname]
      simp
    have plain : '.' ∉ back.reverse := fun mem => hback (List.mem_reverse.mp mem)
    cases hr : rest.reverse with
    | nil =>
      rw [divided, hr, splitName, splitAll_append_cons (by rfl),
        splitAll_of_absent plain] at h
      simp [splitAll] at h
    | cons c more =>
      have something : rest.reverse ≠ [] := by simp [hr]
      rw [divided, splitName_append something plain, Prod.mk.injEq, Option.some.injEq] at h
      obtain ⟨rfl, rfl⟩ := h
      exact ⟨divided, something, plain⟩
  · rw [splitName, splitAll_of_absent dotted] at h
    simp at h

/-- A file with an extension is named by its stem and its extension. -/
theorem exists_stem_of_extension? {p : FilePath} {ext : String} (h : p.extension? = some ext) :
    ∃ stem, p.fileName? = some (stem ++ "." ++ ext) ∧ p.stem? = some stem := by
  obtain ⟨name, named, split⟩ := Option.bind_eq_some_iff.mp h
  obtain ⟨back, last, rfl⟩ := Option.map_eq_some_iff.mp split
  have parts : splitName name.toList = ((splitName name.toList).1, some back) := Prod.ext rfl last
  obtain ⟨whole, -, -⟩ := eq_append_of_splitName parts
  refine ⟨String.ofList (splitName name.toList).1, ?_, by rw [stem?, named, Option.map_some]⟩
  rw [named, Option.some.injEq, ← String.toList_inj]
  simpa using whole

end FilePath

/-! ## Putting names together -/

namespace FileFormat

/-- Extensions are told apart by their letters, so each stands for one format. -/
theorem find?_extensions {e : String × FileFormat} (h : e ∈ extensions) :
    (extensions.find? fun f => equalIgnoringCase f.1 e.1) = some e := by
  simp only [extensions, List.mem_cons, List.not_mem_nil, or_false] at h
  rcases h with rfl | rfl | rfl <;> decide +kernel

theorem isSome_ofPath? {p : FilePath} {ext : String} (h : p.extension? = some ext) :
    (ofPath? p).isSome = true ↔ ∃ e ∈ extensions, equalIgnoringCase e.1 ext = true := by
  rw [ofPath?, h, Option.bind_some, Option.isSome_map, List.find?_isSome]

end FileFormat

namespace Source

variable {base : FilePath} {bot other : BotType} {identifier : String} {p q : FilePath}

/-- A candidate is named by the identifier and an extension, which tells its format. -/
theorem named_of_mem_candidates (hid : FilePath.IsName identifier)
    (hp : p ∈ candidates base bot identifier) :
    ∃ e ∈ FileFormat.extensions, p.fileName? = some (identifier ++ "." ++ e.1) ∧
      p.extension? = some e.1 ∧ FileFormat.ofPath? p = some e.2 := by
  obtain ⟨e, he, rfl⟩ := List.mem_map.mp hp
  obtain ⟨hslash, hne, hdot⟩ := plain_of_mem_extensions he
  obtain ⟨hname, hone, htwo⟩ := hid.withExtension hslash hne hdot
  have named : ((directoryFor base bot).join (identifier ++ "." ++ e.1)).fileName? =
      some (identifier ++ "." ++ e.1) := FilePath.fileName?_join hname hone htwo
  have chars : (identifier ++ "." ++ e.1).toList = identifier.toList ++ '.' :: e.1.toList := by
    simp
  have extended : ((directoryFor base bot).join (identifier ++ "." ++ e.1)).extension? =
      some e.1 := by
    rw [FilePath.extension?, named, Option.bind_some, chars,
      FilePath.splitName_append hid.toList_ne_nil hdot, Option.map_some, String.ofList_toList]
  refine ⟨e, he, named, extended, ?_⟩
  rw [FileFormat.ofPath?, extended, Option.bind_some, FileFormat.find?_extensions he,
    Option.map_some]

/-- No file is a candidate of two identifiers. -/
theorem identifier_of_candidates {one two : String} (hone : FilePath.IsName one)
    (htwo : FilePath.IsName two) (hp : p ∈ candidates base bot one)
    (hq : q ∈ candidates base other two) (same : p.same q = true) : one = two := by
  have stems := FilePath.stem?_of_same same
  rwa [stem?_candidate hone hp, stem?_candidate htwo hq, Option.some.injEq] at stems

end Source

/-! ## Who is told -/

namespace Watches

variable {α : Type} {w : Watches α} {p dir : FilePath} {identifier : String}

theorem directory?_eq_around? (w : Watches α) (isIn : p.isIn dir = true) :
    w.directory? dir = w.around? p := by
  unfold directory? around?
  congr 1
  funext d
  rw [Bool.eq_iff_iff]
  exact ⟨fun here => by rwa [FilePath.isIn_congr here p],
    fun isIn' => FilePath.same_of_isIn isIn' isIn⟩

/-- Those who wait for a file are the subscriptions of its directory for its stem. -/
theorem IsSound.waits_iff (h : w.IsSound) (isIn : p.isIn dir = true)
    (stem : p.stem? = some identifier) (s : Subscription α) :
    w.Waits p s ↔ s ∈ w.subscriptionsAt dir ∧ s.identifier = identifier := by
  constructor
  · rintro ⟨d, hd, isIn', hs, stem'⟩
    have found : w.directory? dir = some d := by
      rw [w.directory?_eq_around? isIn, h.around?_eq hd isIn']
    rw [stem, Option.some.injEq] at stem'
    exact ⟨by rwa [subscriptionsAt_of_directory? found], stem'.symm⟩
  · rintro ⟨hs, rfl⟩
    obtain ⟨d, hd, here, mem⟩ := exists_of_mem_subscriptionsAt hs
    exact ⟨d, hd, by rwa [FilePath.isIn_congr here p], mem, stem⟩

end Watches

namespace Watcher

variable {α : Type} {w : Watcher α} {p dir : FilePath} {identifier : String}

/-- Writes of a file are told to those who wait for an identifier in a directory, and to nobody
else. -/
structure Maps (w : Watcher α) (p dir : FilePath) (identifier : String) : Prop where
  /-- While the directory is watched, an event that counts as a write of the file makes it pending
  for the time of rest. -/
  noticed : (w.watches.directory? dir).isSome → w.isCancelled = false →
    ∀ os files now e rest, w.inbox = .event e :: rest → e.CountsFor files p →
      ∀ due, (w.act os files now).1.watches.Pends p due ↔ due = now + w.watches.debounce
  /-- When the time has come, just the subscription for the identifier is called. -/
  told : w.isCancelled = false → w.inbox = [] → ∀ os files now,
    (w.act os files now).2.1 = (w.watches.ringing now).map (fun c => c.2.target) ∧
      ∀ s, (∃ c ∈ w.watches.ringing now, c.1.same p = true ∧ c.2 = s) ↔
        (∃ due ≤ now, w.watches.Pends p due) ∧
          s ∈ w.watches.subscriptionsAt dir ∧ s.identifier = identifier

/-- A file of a known format in a directory stands for its stem. -/
theorem maps_of_stem (h : w.watches.IsSound) (isIn : p.isIn dir = true)
    (stem : p.stem? = some identifier) (format : (FileFormat.ofPath? p).isSome = true) :
    w.Maps p dir identifier := by
  constructor
  case noticed =>
    intro watched going os files now e rest head counts due
    have minds : w.watches.Minds p := by
      obtain ⟨d, found⟩ := Option.isSome_iff_exists.mp watched
      obtain ⟨hd, here⟩ := Watches.mem_of_directory? found
      exact ⟨⟨d, hd, by rwa [FilePath.isIn_congr here p]⟩, format⟩
    have observed : (w.act os files now).1.watches = w.watches.observe now files e := by
      simp [act, going, head]
    rw [observed, Watches.pends_observe]
    simp [counts, minds]
  case told =>
    intro going empty os files now
    have flushed : (w.act os files now).2.1 = (w.watches.flush now).1 := by
      simp [act, going, empty]
    refine ⟨by rw [flushed, Watches.targets_flush], fun s => ?_⟩
    rw [h.mem_ringing, h.waits_iff isIn stem]

/-- **Reading and watching agree on files.** Let a watcher have come to its state in any way. What
is found for an identifier, some text without slashes, lies directly in the directory of the bot
type and has one of the known extensions, behind the identifier and a dot, and the format of that
extension; its writes are told to those who wait for that identifier there and to nobody else.
Different identifiers have no candidate in common. And every file in a watched directory whose
extension is a known one, in upper or lower case, stands for its name without that extension. -/
theorem names_are_read_back (base : FilePath) (debounce : Nat) (moves : List (Move α)) :
    let w := (ofBase base debounce : Watcher α).run moves
    (∀ bot identifier, FilePath.IsName identifier → ∀ files p,
      Source.find? files w.base bot identifier = some p →
        p.isIn (w.directoryFor bot) = true ∧
          (∃ e ∈ FileFormat.extensions, p.fileName? = some (identifier ++ "." ++ e.1) ∧
            p.extension? = some e.1 ∧ FileFormat.ofPath? p = some e.2) ∧
          w.Maps p (w.directoryFor bot) identifier) ∧
    (∀ bot other one two, FilePath.IsName one → FilePath.IsName two → one ≠ two →
      ∀ p ∈ Source.candidates w.base bot one, ∀ q ∈ Source.candidates w.base other two,
        p.same q = false) ∧
    (∀ d ∈ w.watches.directories, ∀ p ext, p.isIn d.path = true → p.extension? = some ext →
      (∃ e ∈ FileFormat.extensions, FileFormat.equalIgnoringCase e.1 ext = true) →
        ∃ name, p.fileName? = some (name ++ "." ++ ext) ∧ w.Maps p d.path name) := by
  intro w
  have sound : w.watches.IsSound := isSound_run (isSound_ofBase base debounce) moves
  refine ⟨?found, ?apart, ?written⟩
  case found =>
    intro bot identifier hid files p found
    have mem : p ∈ Source.candidates w.base bot identifier := List.mem_of_find?_eq_some found
    have isIn : p.isIn (w.directoryFor bot) = true := by
      rw [Source.isIn_of_mem_candidates hid mem]
      exact FilePath.same_refl _
    exact ⟨isIn, Source.named_of_mem_candidates hid mem,
      maps_of_stem sound isIn (Source.stem?_candidate hid mem)
        (Source.isSome_ofPath?_candidate hid mem)⟩
  case apart =>
    intro bot other one two hone htwo different p hp q hq
    exact Bool.eq_false_iff.mpr fun same =>
      different (Source.identifier_of_candidates hone htwo hp hq same)
  case written =>
    intro d hd p ext isIn extended known
    obtain ⟨name, named, stem⟩ := FilePath.exists_stem_of_extension? extended
    exact ⟨name, named, maps_of_stem sound isIn stem
      ((FileFormat.isSome_ofPath? extended).mpr known)⟩

/-! ## A name that looks like a file -/

namespace DottedName

def subscribe (identifier : String) : Move Unit :=
  .request {} (.subscribe ⟨⟨"Slack"⟩, identifier, ()⟩)

/-- A file for `.env.yaml`. -/
def files : FileTree :=
  { entries := [(["conf"], .directory), (["conf", "slack"], .directory),
      (["conf", "slack", ".env.yaml.yml"], .file [])] }

/-- Three identifiers are waited for, each the beginning of the next, and the file is written. -/
def moves : List (Move Unit) :=
  [subscribe ".env", subscribe ".env.yaml", subscribe ".env.yaml.yml",
    .report (.event ⟨.content, [⟨"/conf/./slack//.env.yaml.yml"⟩]⟩), .act {} files 5]

def rested : Watcher Unit := (ofBase ⟨"/conf"⟩ 10).run moves

end DottedName

open DottedName in
/-- What is found for `.env.yaml` is `.env.yaml.yml`, and when its time has come `.env.yaml` is
called; a file `.env.YML` stands for `.env`. -/
theorem dotted_name_is_read_back :
    (∃ p, Source.find? files rested.base ⟨"Slack"⟩ ".env.yaml" = some p ∧
      p.isIn (rested.directoryFor ⟨"Slack"⟩) = true ∧
      (∃ c ∈ rested.watches.ringing 15, c.1.same p = true ∧ c.2.identifier = ".env.yaml") ∧
      ∀ c ∈ rested.watches.ringing 15, c.1.same p = true → c.2.identifier = ".env.yaml") ∧
    (⟨"/conf/slack/.env.yaml.yml"⟩ : FilePath).same ⟨"/conf/slack/.env.yml"⟩ = false ∧
    ∃ name, (⟨"/conf/slack/.env.YML"⟩ : FilePath).fileName? = some (name ++ "." ++ "YML") ∧
      rested.Maps ⟨"/conf/slack/.env.YML"⟩ ⟨"/conf/slack"⟩ name := by
  obtain ⟨found, apart, written⟩ := names_are_read_back ⟨"/conf"⟩ 10 moves
  have here : Source.find? files rested.base ⟨"Slack"⟩ ".env.yaml" =
      some ⟨"/conf/slack/.env.yaml.yml"⟩ := by decide +kernel
  obtain ⟨isIn, -, maps⟩ := found ⟨"Slack"⟩ ".env.yaml" (by decide +kernel) files _ here
  have told := (maps.told (by decide +kernel) (by decide +kernel) {} files 15).2
  obtain ⟨d, hd, there⟩ : ∃ d ∈ rested.watches.directories, d.path = ⟨"/conf/slack"⟩ := by
    decide +kernel
  refine ⟨⟨_, here, isIn, by decide +kernel, ?only⟩, ?apart, ?upper⟩
  case only =>
    intro c hc same
    exact ((told c.2).mp ⟨c, hc, same, rfl⟩).2.2
  case apart =>
    exact apart ⟨"slack"⟩ ⟨"slack"⟩ ".env.yaml" ".env" (by decide +kernel) (by decide +kernel)
      (by decide) _ (by decide +kernel) _ (by decide +kernel)
  case upper =>
    rw [← there]
    exact written d hd _ "YML" (by rw [there]; decide +kernel) (by decide +kernel)
      (by decide +kernel)

end Watcher

end Switchboard
