import Subgen.Subtitles.LanguageCode

/-!
# The subtitles beside a video

`has_external_subtitle_in_language` takes a file for a subtitle of a video if its name begins with that of
the video, and looks for the language in what stands behind it. A name that begins with the name of another
video is therefore taken for a subtitle of both.

* `countsFor`: what is asked of one file;
* `separate_iff`: the videos whose subtitles are never taken for one of a given video.
-/

namespace Subgen

/-- `os.path.splitext`: what stands before the last dot of a name, and the rest; dots that a name begins with do not count. -/
def splitext (name : Text) : Text × Text :=
  let extension := (name.reverse.takeWhile (· ≠ 46)).reverse
  let root := name.take (name.length - (extension.length + 1))
  if 46 ∈ name ∧ root.any (· ≠ 46) then (root, 46 :: extension) else (name, [])

example : splitext (text "film.en.srt") = (text "film.en", text ".srt") := by decide
example : splitext (text "..srt") = (text "..srt", []) := by decide

/-- The extensions of subtitles. -/
def subtitleExtensions : List Text :=
  [text ".srt", text ".vtt", text ".sub", text ".ass", text ".ssa", text ".idx", text ".sbv", text ".pgs",
    text ".ttml", text ".lrc"]

/-- What an entry of a directory is, for `os.path.isfile` and `os.path.isdir`. Of a directory the names are
    kept, each with whether it is a file, unless it cannot be listed. -/
inductive Entry
  | file
  | directory (names : Option (List (Text × Bool)))
  | other

/-- The entries of a directory, in the order of `os.listdir`. -/
abbrev Listing := List (Text × Entry)

/-- `is_valid_subtitle_language`. -/
def isValidSubtitleLanguage (lower : Text → Text) (subtitleParts : List Text) (target : LanguageCode) : Bool :=
  subtitleParts.any fun part => (LanguageCode.fromString lower part).eq target

/-- The name has the extension of a subtitle. -/
def isSubtitle (fileName : Text) : Bool := subtitleExtensions.any fun extension => extension <:+ fileName

/-- What is searched for: a subtitle of a video, whose name this is, in a language. -/
structure SubtitleSearch where
  video : Text
  target : LanguageCode
  onlyMatchSubgenSubtitles : Bool

namespace SubtitleSearch

variable (lower : Text → Text) (q : SubtitleSearch)

/-- What is asked of a subtitle file. -/
def countsFor (fileName : Text) : Bool :=
  let videoName := (splitext q.video).1
  let subtitleName := (splitext fileName).1
  if videoName <+: subtitleName then
    let subtitleParts := ((subtitleName.drop videoName.length).dropWhile (· = 46)).splitOn 46
    let hasSubgen := text "subgen" ∈ subtitleParts
    if q.target.eq .none then !q.onlyMatchSubgenSubtitles || hasSubgen
    else isValidSubtitleLanguage lower subtitleParts q.target && (!q.onlyMatchSubgenSubtitles || hasSubgen)
  else false

/-- The search in a directory of the directory, which goes no further. -/
def inDirectory (names : List (Text × Bool)) : Bool :=
  names.any fun (fileName, isFile) => isFile && isSubtitle fileName && q.countsFor lower fileName

/-- `has_external_subtitle_in_language`; nothing is found in a directory that cannot be listed. -/
def hasExternalSubtitle (recursion : Bool) (listing : Option Listing) : Bool :=
  (listing.getD []).any fun (fileName, entry) =>
    match entry with
    | .file => isSubtitle fileName && q.countsFor lower fileName
    | .directory names => recursion && q.inDirectory lower (names.getD [])
    | .other => false

end SubtitleSearch

/-! ## The names of subtitles -/

theorem splitext_isPrefix (name : Text) : (splitext name).1 <+: name := by
  rw [splitext]
  split
  · exact List.take_prefix _ _
  · exact List.prefix_refl _

theorem splitext_append {root extension : Text} (hroot : root.any (· ≠ 46) = true) (hextension : 46 ∉ extension) :
    splitext (root ++ 46 :: extension) = (root, 46 :: extension) := by
  have htake : ((root ++ 46 :: extension).reverse.takeWhile (· ≠ 46)).reverse = extension := by
    have hrev : (root ++ 46 :: extension).reverse = extension.reverse ++ 46 :: root.reverse := by simp
    rw [hrev, List.takeWhile_append_of_pos fun c hc => ?_]
    · simp
    · exact decide_eq_true fun h => hextension (h ▸ List.mem_reverse.1 hc)
  have hlength : (root ++ 46 :: extension).length - (extension.length + 1) = root.length := by simp
  rw [splitext]
  simp only [htake, hlength, List.take_left]
  rw [if_pos ⟨by simp, hroot⟩]

/-- A video, which is no subtitle itself. -/
structure VideoName where
  name : Text
  not_subtitle : isSubtitle name = false

namespace VideoName

variable (v : VideoName)

/-- The name without its extension. -/
def stem : Text := (splitext v.name).1

/-- The subtitle of a video with some parts behind its name. -/
def subtitleName (parts extension : Text) : Text := v.stem ++ 46 :: (parts ++ extension)

/-- `name_subtitle`, in the directory of the video. -/
def nameSubtitle (showInSubnameSubgen showInSubnameModel : Bool) (whisperModel langPart : Text) : Text :=
  let subgenPart := if showInSubnameSubgen then text ".subgen" else []
  let modelPart := if showInSubnameModel then 46 :: whisperModel else []
  v.stem ++ subgenPart ++ modelPart ++ 46 :: langPart ++ text ".srt"

/-- The subtitle that is written for a video has its stem and some parts behind it. -/
theorem exists_nameSubtitle (subgen model : Bool) (whisperModel langPart : Text) :
    ∃ parts, v.nameSubtitle subgen model whisperModel langPart = v.subtitleName parts (text ".srt") := by
  rcases subgen with _ | _ <;> rcases model with _ | _
  · exact ⟨langPart, by simp [nameSubtitle, subtitleName]⟩
  · exact ⟨whisperModel ++ 46 :: langPart, by simp [nameSubtitle, subtitleName]⟩
  · exact ⟨text "subgen" ++ 46 :: langPart, by simp [nameSubtitle, subtitleName]; rfl⟩
  · exact ⟨text "subgen" ++ 46 :: (whisperModel ++ 46 :: langPart), by simp [nameSubtitle, subtitleName]; rfl⟩

end VideoName

/-! ## Whose subtitle it is -/

/-- Without the files of a name, also in the directories. -/
def Listing.without (listing : Listing) (fileName : Text) : Listing :=
  (listing.filter fun (name, entry) => !(name = fileName && entry matches .file)).map fun (name, entry) =>
    (name, match entry with
      | .directory names => .directory (names.map fun names => names.filter fun x => !decide (x.1 = fileName))
      | entry => entry)

/-- No subtitle of the other video ever makes it look as if the video had one. -/
def Separate (lower : Text → Text) (video other : VideoName) : Prop :=
  ∀ (listing : Listing), (video.name, .file) ∈ listing → (other.name, .file) ∈ listing →
    ∀ (parts : Text), ∀ extension ∈ subtitleExtensions, ∀ (target : LanguageCode) (only recursion : Bool),
      let q : SubtitleSearch := ⟨video.name, target, only⟩
      q.hasExternalSubtitle lower recursion (some listing) = true →
        q.hasExternalSubtitle lower recursion (some (listing.without (other.subtitleName parts extension))) = true

section

variable {lower : Text → Text} {q : SubtitleSearch} {fileName : Text} {video other : VideoName}

theorem SubtitleSearch.countsFor_eq_false (h : ¬ (splitext q.video).1 <+: fileName) :
    q.countsFor lower fileName = false :=
  if_neg fun hstem => h (hstem.trans (splitext_isPrefix fileName))

theorem any_filter_of_false {α : Type} {p f : α → Bool} (h : ∀ x, p x = false → f x = false) (l : List α) :
    (l.filter p).any f = l.any f := by
  rw [List.any_filter]
  refine List.any_congr rfl fun x => ?_
  rcases hp : p x with _ | _
  · rw [h x hp, Bool.and_false]
  · rw [Bool.true_and]

theorem inDirectory_filter (h : q.countsFor lower fileName = false) (names : List (Text × Bool)) :
    q.inDirectory lower (names.filter fun x => !decide (x.1 = fileName)) = q.inDirectory lower names := by
  refine any_filter_of_false (fun x hx => ?_) names
  have hname : x.1 = fileName := by simpa using hx
  simp [hname, h]

/-- A file that does not count is not missed. -/
theorem hasExternalSubtitle_without (h : q.countsFor lower fileName = false) (recursion : Bool) (listing : Listing) :
    q.hasExternalSubtitle lower recursion (some (listing.without fileName)) =
      q.hasExternalSubtitle lower recursion (some listing) := by
  simp only [SubtitleSearch.hasExternalSubtitle, Listing.without, Option.getD_some, List.any_map, List.any_filter]
  refine List.any_congr rfl fun (name, entry) => ?_
  rcases entry with _ | names | _
  · by_cases hname : name = fileName
    · simp [hname, h]
    · simp [hname]
  · rcases names with _ | names
    · simp
    · simpa using congrArg (recursion && ·) (inDirectory_filter h names)
  · simp

/-- Between a name and one that continues another name, one of the two names continues the other. -/
theorem isPrefix_or {s t u : Text} (h : s <+: t ++ 46 :: u) : s <+: t ∨ t ++ [46] <+: s := by
  have hname : t ++ [46] <+: t ++ 46 :: u := ⟨u, by simp⟩
  rcases List.prefix_or_prefix_of_prefix h hname with hst | hts
  · rcases List.prefix_concat_iff.1 hst with rfl | hst
    · exact .inr (List.prefix_refl _)
    · exact .inl hst
  · exact .inr hts

/-- A subtitle that counts for the wrong video. -/
theorem not_separate {root : Text} (hroot : root.any (· ≠ 46) = true) (hvideo : video.stem <+: root)
    (parts : Text) (hother : root = other.stem ++ 46 :: parts) : ¬ Separate lower video other := by
  intro h
  have hname : other.subtitleName parts (text ".srt") = root ++ 46 :: text "srt" := by
    simp [VideoName.subtitleName, hother]
    rfl
  have hsplit : splitext (root ++ 46 :: text "srt") = (root, 46 :: text "srt") :=
    splitext_append hroot (by decide)
  have hsubtitle : isSubtitle (root ++ 46 :: text "srt") = true :=
    List.any_eq_true.2 ⟨text ".srt", by simp [subtitleExtensions], decide_eq_true (List.suffix_append _ _)⟩
  have hne : ∀ v : VideoName, v.name ≠ root ++ 46 :: text "srt" := by
    intro v hv
    exact absurd hsubtitle (by rw [← hv, v.not_subtitle]; exact Bool.false_ne_true)
  have hcounts : (⟨video.name, .none, false⟩ : SubtitleSearch).countsFor lower (root ++ 46 :: text "srt") = true := by
    simp only [SubtitleSearch.countsFor, hsplit]
    rw [if_pos (show (splitext video.name).1 <+: root from hvideo)]
    rfl
  have hfound := h [(video.name, .file), (other.name, .file), (root ++ 46 :: text "srt", .file)] (by simp) (by simp)
    parts (text ".srt") (by simp [subtitleExtensions]) .none false false
  rw [hname] at hfound
  simp [SubtitleSearch.hasExternalSubtitle, Listing.without, video.not_subtitle, other.not_subtitle, hne, hsubtitle,
    hcounts] at hfound

/-- The subtitles of a video are never taken for one of another video if and only if neither name continues
    the other, the second name behind a dot. -/
theorem separate_iff (lower : Text → Text) (video other : VideoName) :
    Separate lower video other ↔ ¬ video.stem <+: other.stem ∧ ¬ other.stem ++ [46] <+: video.stem := by
  constructor
  · refine fun h => ⟨fun hstem => ?_, fun ⟨parts, hstem⟩ => ?_⟩
    · exact not_separate (by simp [text]) (hstem.trans (List.prefix_append _ _)) (text "en") rfl h
    · have hroot : video.stem ++ text ".en" = other.stem ++ 46 :: (parts ++ text ".en") := by simp [← hstem]
      exact not_separate (by simp [text]) (List.prefix_append _ _) (parts ++ text ".en") hroot h
  · rintro ⟨hvideo, hother⟩ listing - - parts extension - target only recursion q hfound
    have hcounts : q.countsFor lower (other.subtitleName parts extension) = false :=
      SubtitleSearch.countsFor_eq_false fun hstem => (isPrefix_or hstem).elim hvideo hother
    rwa [hasExternalSubtitle_without hcounts]

end

/-- A film. -/
def film : VideoName := ⟨text "Movie.mkv", by decide⟩

/-- A film whose name starts with the name of the first one. -/
def sequel : VideoName := ⟨text "Movie 2.mkv", by decide⟩

/-- The subtitles of a sequel are taken for those of the first film. -/
theorem sequel_not_separate : film.stem ≠ sequel.stem ∧ ¬ film.stem ++ [46] <+: sequel.stem ∧
    ¬ Separate id film sequel :=
  ⟨by decide, by decide, not_separate (by decide) (by decide) (text "en") rfl⟩

end Subgen
