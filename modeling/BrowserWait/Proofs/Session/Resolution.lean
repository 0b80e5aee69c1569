import BrowserWait.Session.Url
import Mathlib.Data.List.TakeWhile
import Mathlib.Tactic.Common

/-!
# Resolved URLs

A relative URL is resolved by putting something in front of it, of which `lead` is all but the base's scheme. So it stays
on the base's origin, unless it holds the mark that stands between a scheme and an authority: then it is taken for
absolute wherever it holds it, in a query too (`relative_stays`). A URL below a directory stands in the directory of the
base's path, so that two steps lead where one leads, and what is resolved once stays as it is (`resolution_composes`).
-/

namespace BrowserWait.Url

/-! ## Origins and references -/

/-- A scheme: a letter, and letters, digits, plus signs, hyphens and points behind it. -/
def IsScheme : List Char → Prop
  | [] => False
  | c :: more => c.isAlpha = true ∧ ∀ d ∈ more, d.isAlphanum = true ∨ d ∈ ['+', '-', '.']

/-- What may stand behind an authority: nothing, or what begins a path, a query or a fragment. -/
def EndsAuthority (text : List Char) : Prop := ∀ c ∈ text.head?, c ∈ ['/', '?', '#']

/-- A scheme and an authority. -/
structure Origin where
  scheme : String
  authority : String
  single : ':' ∉ scheme.toList
  bounded : ∀ c ∈ authority.toList, c ∉ ['/', '?', '#']

namespace Origin

def text (origin : Origin) : String := origin.scheme ++ "://" ++ origin.authority

/-- A URL begins with an origin, and its authority ends where that of the origin ends. -/
def Covers (origin : Origin) (url : String) : Prop := ∃ tail, url = origin.text ++ tail ∧ EndsAuthority tail.toList

end Origin

/-- A URL that begins neither with a scheme nor with an authority. -/
structure IsRelative (url : String) : Prop where
  schemeless : ∀ scheme rest, url.toList = scheme ++ ':' :: rest → ¬ IsScheme scheme
  hostless : ∀ rest, url.toList ≠ '/' :: '/' :: rest

/-- A URL that holds, wherever it be, what stands between a scheme and an authority. -/
def IsMarked (url : String) : Prop := schemeMark <:+: url.toList

instance : DecidablePred IsMarked := fun _ => decidable_of_iff _ Text.contains_iff

/-! ## What is put in front -/

/-- What a relative URL gets in front of it, of what stands behind the base's scheme. -/
def lead (rest : List Char) : (url : List Char) → List Char
  | [] => rest
  | '/' :: _ => rest.takeWhile (· != '/')
  | _ :: _ => rest.takeWhile (· != '/') ++ directory (rest.dropWhile (· != '/'))

theorem resolveChars_marked {url : List Char} (marked : schemeMark <:+: url) (base : List Char) :
    resolveChars base url = url := by
  rw [resolveChars, if_pos (Text.contains_iff.mpr marked)]

theorem resolveChars_lead {scheme : List Char} (single : ':' ∉ scheme) (rest : List Char) {url : List Char}
    (unmarked : ¬ schemeMark <:+: url) (hostless : ∀ path, url ≠ '/' :: '/' :: path) :
    resolveChars (scheme ++ (schemeMark ++ rest)) url = scheme ++ (schemeMark ++ (lead rest url ++ url)) := by
  have cut : Text.cut? schemeMark (scheme ++ (schemeMark ++ rest)) = some (scheme, rest) :=
    Text.cut?_append_mark single ['/', '/'] rest
  have inside : Text.after? ['/', '/'] url = none := by
    rw [Option.eq_none_iff_forall_ne_some]
    exact fun path found => hostless path (Text.eq_append_of_after? found)
  rw [resolveChars, if_neg (mt Text.contains_iff.mp unmarked), cut]
  dsimp only
  rw [inside]
  cases url with
  | nil => simp [lead]
  | cons c url => by_cases slash : c = '/' <;> simp [lead, slash]

theorem toList_resolve (base url : String) : (resolve base url).toList = resolveChars base.toList url.toList :=
  String.toList_ofList

theorem resolve_marked {url : String} (marked : IsMarked url) (base : String) : resolve base url = url := by
  rw [← String.toList_inj, toList_resolve, resolveChars_marked marked]

/-- An unmarked URL of the same host is resolved by what is put in front of it, behind the origin. -/
theorem resolve_origin (origin : Origin) (tail : String) {url : String} (unmarked : ¬ IsMarked url)
    (hostless : ∀ path, url.toList ≠ '/' :: '/' :: path) :
    resolve (origin.text ++ tail) url = origin.text ++ String.ofList (lead tail.toList url.toList) ++ url := by
  have plain : ∀ c ∈ origin.authority.toList, (c != '/') = true := by
    intro c member
    have bounded := origin.bounded c member
    simp_all
  have authority : lead (origin.authority.toList ++ tail.toList) url.toList =
      origin.authority.toList ++ lead tail.toList url.toList := by
    unfold lead
    split <;> simp [List.takeWhile_append_of_pos plain, List.dropWhile_append_of_pos plain]
  have base : (origin.text ++ tail).toList =
      origin.scheme.toList ++ (schemeMark ++ (origin.authority.toList ++ tail.toList)) := by
    simp [Origin.text, schemeMark, String.toList_append]
  rw [← String.toList_inj, toList_resolve, base, resolveChars_lead origin.single _ unmarked hostless, authority]
  simp [Origin.text, schemeMark, String.toList_append]

/-! ## Directories -/

/-- The directory of a path: up to its last slash, or the root where there is no path. -/
inductive Folder : (path folder : List Char) → Prop where
  | root : Folder [] ['/']
  | upTo {front name : List Char} (bare : '/' ∉ name) : Folder (front ++ '/' :: name) (front ++ ['/'])

theorem exists_folder {path : List Char} (rooted : ∀ c ∈ path.head?, c = '/') :
    ∃ folder, Folder path folder ∧ ∃ rest, folder = '/' :: rest := by
  cases path with
  | nil => exact ⟨_, .root, [], rfl⟩
  | cons c path =>
    obtain rfl : c = '/' := rooted c rfl
    -- the first slash from the back is the last one
    have slash : '/' ∈ ('/' :: path).reverse := by simp
    obtain ⟨back, front, turned, bare⟩ := List.eq_append_cons_of_mem slash
    have whole : '/' :: path = front.reverse ++ '/' :: back.reverse := by simpa using congrArg List.reverse turned
    refine ⟨front.reverse ++ ['/'], whole ▸ .upTo (by simpa using bare), ?_⟩
    cases begins : front.reverse with
    | nil => exact ⟨[], rfl⟩
    | cons d more =>
      rw [begins] at whole
      obtain ⟨rfl, -⟩ := List.cons.inj whole
      exact ⟨more ++ ['/'], rfl⟩

theorem dropWhile_stops {p : Char → Bool} {text : List Char} : ∀ c ∈ (text.dropWhile p).head?, p c = false := by
  intro c first
  have stops := List.head?_dropWhile_not p text
  rw [first] at stops
  simpa using stops

theorem Folder.mem {path folder : List Char} (stands : Folder path folder) {c : Char} (member : c ∈ folder) :
    c = '/' ∨ c ∈ path := by
  cases stands with
  | root => simp_all
  | upTo bare =>
    rcases List.mem_append.mp member with member | member
    · exact .inr (List.mem_append_left _ member)
    · exact .inl (List.mem_singleton.mp member)

/-- The characters that do not end a path. -/
def inPath (c : Char) : Bool := c != '?' && c != '#'

theorem inPath_iff (c : Char) : inPath c = true ↔ c ∉ ['?', '#'] := by simp [inPath]

theorem directory_eq {path folder : List Char} (stands : Folder path folder) (bounded : ∀ c ∈ path, c ∉ ['?', '#'])
    {suffix : List Char} (begins : ∀ c ∈ suffix.head?, c ∈ ['?', '#']) : directory (path ++ suffix) = folder := by
  have plain : (path ++ suffix).takeWhile (fun c => c != '?' && c != '#') = path := by
    change (path ++ suffix).takeWhile inPath = path
    rw [List.takeWhile_append_of_pos fun c member => (inPath_iff c).mpr (bounded c member)]
    cases suffix with
    | nil => simp
    | cons c suffix =>
      have stops : ¬ inPath c = true := fun kept => (inPath_iff c).mp kept (begins c rfl)
      rw [List.takeWhile_cons_of_neg stops, List.append_nil]
  simp only [directory, plain]
  cases stands with
  | root => rfl
  | @upTo front name bare =>
    have skipped : ∀ c ∈ name.reverse, (c != '/') = true := by
      intro c member
      simpa using fun same : c = '/' => bare (by simpa [same] using member)
    have turned : (front ++ '/' :: name).reverse.dropWhile (· != '/') = '/' :: front.reverse := by
      simp [List.dropWhile_append_of_pos skipped]
    rw [turned]
    simp

theorem exists_directory {path : List Char} (rooted : ∀ c ∈ path.head?, c = '/') :
    ∃ rest, directory path = '/' :: rest := by
  have rooted' : ∀ c ∈ (path.takeWhile inPath).head?, c = '/' := by
    cases path with
    | nil => simp
    | cons c path => by_cases kept : inPath c = true <;> simp_all
  have bounded : ∀ c ∈ path.takeWhile inPath, c ∉ ['?', '#'] :=
    fun c member => (inPath_iff c).mp (List.mem_takeWhile_imp member)
  have behind : ∀ c ∈ (path.dropWhile inPath).head?, c ∈ ['?', '#'] := by
    intro c first
    by_contra other
    exact Bool.false_ne_true ((dropWhile_stops c first).symm.trans ((inPath_iff c).mpr other))
  obtain ⟨folder, stands, begins⟩ := exists_folder rooted'
  have whole := directory_eq stands bounded behind
  rw [List.takeWhile_append_dropWhile] at whole
  rwa [whole]

/-! ## Staying on the origin -/

theorem EndsAuthority.takeWhile_append {tail : List Char} (ends : EndsAuthority tail) (p : Char → Bool)
    (more : List Char) : EndsAuthority (tail.takeWhile p ++ '/' :: more) := by
  cases tail with
  | nil => simp [EndsAuthority]
  | cons c tail => by_cases kept : p c = true <;> simp_all [EndsAuthority]

theorem endsAuthority_lead {tail : List Char} (ends : EndsAuthority tail) (url : List Char) :
    EndsAuthority (lead tail url ++ url) := by
  unfold lead
  split
  · simpa using ends
  · exact ends.takeWhile_append _ _
  · have rooted : ∀ c ∈ (tail.dropWhile (· != '/')).head?, c = '/' := by
      intro c first
      simpa using dropWhile_stops c first
    obtain ⟨rest, begins⟩ := exists_directory rooted
    rw [begins, List.append_assoc]
    exact ends.takeWhile_append _ _

theorem covers_resolve (origin : Origin) {tail url : String} (ends : EndsAuthority tail.toList)
    (relative : IsRelative url) (unmarked : ¬ IsMarked url) : origin.Covers (resolve (origin.text ++ tail) url) := by
  rw [resolve_origin origin tail unmarked relative.hostless]
  refine ⟨String.ofList (lead tail.toList url.toList) ++ url, String.append_assoc .., ?_⟩
  simpa [String.toList_append] using endsAuthority_lead ends url.toList

theorem not_covers_relative {origin : Origin} (schemed : IsScheme origin.scheme.toList) {url : String}
    (relative : IsRelative url) : ¬ origin.Covers url := by
  rintro ⟨tail, rfl, -⟩
  exact relative.schemeless origin.scheme.toList ('/' :: '/' :: (origin.authority ++ tail).toList)
    (by simp [Origin.text, String.toList_append]) schemed

/-- A relative URL stays on the origin of the base, whatever stands behind the base's authority, unless it is marked. A
marked one is taken for absolute and kept, and so it is on no origin that has a scheme. -/
theorem relative_stays (origin : Origin) {tail url : String} (ends : EndsAuthority tail.toList)
    (relative : IsRelative url) :
    (¬ IsMarked url → origin.Covers (resolve (origin.text ++ tail) url)) ∧
      (IsMarked url → resolve (origin.text ++ tail) url = url ∧
        (IsScheme origin.scheme.toList → ¬ origin.Covers (resolve (origin.text ++ tail) url))) := by
  refine ⟨covers_resolve origin ends relative, fun marked => ?_⟩
  rw [resolve_marked marked]
  exact ⟨rfl, fun schemed => not_covers_relative schemed relative⟩

/-- The base's authority ends at its query, and a slash in the query is taken for the first of the path. -/
theorem relative_stays_behind_query :
    let origin : Origin := ⟨"http", "app.test", by simp, by simp⟩
    EndsAuthority "?from=/shop/".toList ∧ IsRelative "cart" ∧ ¬ IsMarked "cart" ∧
      origin.Covers (resolve (origin.text ++ "?from=/shop/") "cart") := by
  intro origin
  have ends : EndsAuthority "?from=/shop/".toList := by simp [EndsAuthority]
  have relative : IsRelative "cart" := by
    constructor
    · intro scheme rest same
      have colon : ':' ∈ "cart".toList := same ▸ by simp
      exact absurd colon (by decide)
    · simp
  have unmarked : ¬ IsMarked "cart" := by decide
  exact ⟨ends, relative, unmarked, (relative_stays origin ends relative).1 unmarked⟩

/-- A rooted URL is taken for an absolute one because of the URL in its query, and leaves the origin. -/
theorem rooted_leaves_origin :
    let origin : Origin := ⟨"http", "app.test", by simp, by simp⟩
    let login := "/login?next=http://app.test/cart"
    EndsAuthority "/shop/".toList ∧ IsRelative login ∧ ¬ origin.Covers (resolve (origin.text ++ "/shop/") login) := by
  intro origin login
  have relative : IsRelative login := by
    constructor
    · intro scheme rest same schemed
      cases scheme with
      | nil => exact schemed
      | cons c more =>
        obtain rfl : '/' = c := by simpa [login] using congrArg List.head? same
        exact absurd schemed.1 (by decide)
    · simp [login]
  have marked : IsMarked login := by decide
  have schemed : IsScheme origin.scheme.toList := by simp [origin, IsScheme]
  refine ⟨by simp [EndsAuthority], relative, ?_⟩
  rw [resolve_marked marked]
  exact not_covers_relative schemed relative

/-! ## Standing in a directory -/

/-- An origin, a path, and a query or a fragment behind a path. -/
structure Base where
  origin : Origin
  path : String
  suffix : String
  rooted : ∀ c ∈ path.toList.head?, c = '/'
  bounded : ∀ c ∈ path.toList, c ∉ ['?', '#']
  behind : ∀ c ∈ suffix.toList.head?, path ≠ "" ∧ c ∈ ['?', '#']

def Base.text (base : Base) : String := base.origin.text ++ base.path ++ base.suffix

/-- A URL that is to stand in a directory: not empty, not rooted, and not marked. -/
structure IsBelow (url : String) : Prop where
  filled : url ≠ ""
  unrooted : ∀ c ∈ url.toList.head?, c ≠ '/'
  unmarked : ¬ IsMarked url

theorem IsBelow.exists_cons {url : String} (below : IsBelow url) : ∃ c more, url.toList = c :: more ∧ c ≠ '/' := by
  cases chars : url.toList with
  | nil => exact absurd (String.toList_eq_nil_iff.mp chars) below.filled
  | cons c more => exact ⟨c, more, rfl, below.unrooted c (by rw [chars]; rfl)⟩

theorem IsBelow.hostless {url : String} (below : IsBelow url) (path : List Char) : url.toList ≠ '/' :: '/' :: path := by
  intro same
  exact below.unrooted '/' (by rw [same]; rfl) rfl

theorem lead_of_isBelow {url : String} (below : IsBelow url) (rest : List Char) :
    lead rest url.toList = rest.takeWhile (· != '/') ++ directory (rest.dropWhile (· != '/')) := by
  obtain ⟨c, more, chars, unrooted⟩ := below.exists_cons
  simp [chars, lead]

namespace Base

variable (base : Base)

theorem rooted_behind_origin : ∀ c ∈ (base.path ++ base.suffix).toList.head?, c = '/' := by
  intro c first
  rw [String.toList_append] at first
  cases chars : base.path.toList with
  | nil =>
    rw [chars, List.nil_append] at first
    exact absurd (String.toList_eq_nil_iff.mp chars) (base.behind c first).1
  | cons d more =>
    rw [chars] at first
    exact base.rooted c (by rw [chars]; exact first)

/-- A URL below a directory stands in that of the base's path, whatever the path's last segment and what is behind it. -/
theorem resolve_below {folder : String} (stands : Folder base.path.toList folder.toList) {url : String}
    (below : IsBelow url) : resolve base.text url = base.origin.text ++ folder ++ url := by
  have rooted := base.rooted_behind_origin
  have plain : ∀ c ∈ base.suffix.toList.head?, c ∈ ['?', '#'] := fun c first => (base.behind c first).2
  have front : lead (base.path ++ base.suffix).toList url.toList = folder.toList := by
    rw [lead_of_isBelow below, ← directory_eq stands base.bounded plain, ← String.toList_append]
    cases chars : (base.path ++ base.suffix).toList with
    | nil => rfl
    | cons c more =>
      obtain rfl : c = '/' := rooted c (by rw [chars]; rfl)
      rfl
  rw [Base.text, String.append_assoc, resolve_origin base.origin _ below.unmarked below.hostless, front,
    String.ofList_toList]

/-- A directory below a base, as a base of its own. -/
def enter {folder dir : String} (stands : Folder base.path.toList folder.toList)
    (rooted : ∃ rest, folder.toList = '/' :: rest) (bounded : ∀ c ∈ dir.toList, c ∉ ['?', '#']) : Base where
  origin := base.origin
  path := folder ++ dir
  suffix := ""
  rooted := by
    obtain ⟨rest, begins⟩ := rooted
    simp [String.toList_append, begins]
  bounded := by
    intro c member
    rw [String.toList_append, List.mem_append] at member
    rcases member with member | member
    · rcases stands.mem member with rfl | member
      · decide
      · exact base.bounded c member
    · exact bounded c member
  behind := by simp

end Base

/-- No mark comes to stand where a directory and a URL below it meet. -/
theorem unmarked_append {dir url : List Char} (slash : dir.getLast? = some '/') (unmarked : ¬ schemeMark <:+: dir)
    (unrooted : ∀ c ∈ url.head?, c ≠ '/') (unmarked' : ¬ schemeMark <:+: url) : ¬ schemeMark <:+: dir ++ url := by
  rintro ⟨front, rest, whole⟩
  rw [List.append_assoc] at whole
  rcases List.append_eq_append_iff.mp whole with ⟨across, rfl, behind⟩ | ⟨more, rfl, behind⟩
  · -- the mark begins in the directory, which holds none, one, two or all of its characters
    rcases across with _ | ⟨a, _ | ⟨b, _ | ⟨c, more⟩⟩⟩
    · exact unmarked' ⟨[], rest, by simpa using behind⟩
    · obtain ⟨rfl, -⟩ := List.cons.inj behind
      simp at slash
    · obtain ⟨rfl, rfl, rfl⟩ : ':' = a ∧ '/' = b ∧ '/' :: rest = url := by simpa [schemeMark] using behind
      exact unrooted '/' rfl rfl
    · obtain ⟨rfl, rfl, rfl, -⟩ : ':' = a ∧ '/' = b ∧ '/' = c ∧ rest = more ++ url := by
        simpa [schemeMark] using behind
      exact unmarked ⟨front, more, by simp [schemeMark]⟩
  · exact unmarked' ⟨more, rest, by rw [behind, List.append_assoc]⟩

theorem IsBelow.append {dir url : String} (below : IsBelow dir) (slash : dir.toList.getLast? = some '/')
    (below' : IsBelow url) : IsBelow (dir ++ url) where
  filled := by simp [below.filled]
  unrooted := by
    obtain ⟨d, more, chars, unrooted⟩ := below.exists_cons
    simp [String.toList_append, chars, unrooted]
  unmarked := by
    rw [IsMarked, String.toList_append]
    exact unmarked_append slash below.unmarked below'.unrooted below'.unmarked

theorem Base.resolve_twice (base : Base) {dir url : String} (below : IsBelow dir)
    (slash : dir.toList.getLast? = some '/') (bounded : ∀ c ∈ dir.toList, c ∉ ['?', '#']) (below' : IsBelow url) :
    resolve (resolve base.text dir) url = resolve base.text (dir ++ url) := by
  obtain ⟨folder, stands, rooted⟩ := exists_folder base.rooted
  rw [← String.toList_ofList (l := folder)] at stands rooted
  have entered : resolve base.text dir = (base.enter stands rooted bounded).text := by
    rw [base.resolve_below stands below]
    simp [Base.text, Base.enter, String.append_assoc]
  obtain ⟨d, ends⟩ := List.getLast?_eq_some_iff.mp slash
  have whole : Folder (base.enter stands rooted bounded).path.toList (String.ofList folder ++ dir).toList := by
    have path : (base.enter stands rooted bounded).path.toList = folder ++ d ++ '/' :: [] := by
      simp [Base.enter, String.toList_append, ends]
    rw [path, show (String.ofList folder ++ dir).toList = folder ++ d ++ ['/'] by simp [String.toList_append, ends]]
    exact .upTo List.not_mem_nil
  rw [entered, Base.resolve_below _ whole below', base.resolve_below stands (below.append slash below')]
  simp [Base.enter, String.append_assoc]

theorem resolveChars_cases (base url : List Char) :
    resolveChars base url = url ∨ schemeMark <:+: resolveChars base url := by
  by_cases marked : schemeMark <:+: url
  · exact .inl (resolveChars_marked marked base)
  · rw [resolveChars, if_neg (mt Text.contains_iff.mp marked)]
    cases cut : Text.cut? schemeMark base with
    | none => exact .inl rfl
    | some parts =>
      obtain ⟨scheme, rest⟩ := parts
      refine .inr ?_
      have whole := Text.eq_append_of_cut? cut
      dsimp only
      split
      · exact ⟨scheme, _, rfl⟩
      · split
        · exact ⟨scheme, rest, by rw [whole, List.append_assoc]⟩
        · exact ⟨scheme, _, by simp only [List.append_assoc]; rfl⟩
        · exact ⟨scheme, _, by simp only [List.append_assoc]; rfl⟩

theorem resolve_resolve (base url : String) : resolve base (resolve base url) = resolve base url := by
  rcases resolveChars_cases base.toList url.toList with kept | marked
  · rw [show resolve base url = url by rw [← String.toList_inj, toList_resolve, kept]]
    rw [← String.toList_inj, toList_resolve, kept]
  · exact resolve_marked (by rwa [IsMarked, toList_resolve]) base

/-- A URL below a directory stands in the directory of the base's path, whatever the path's last segment and whatever is
behind the path; a directory below that may be resolved in a step of its own; and of any two texts, what one becomes
against the other stays as it is when it is resolved again. -/
theorem resolution_composes :
    (∀ (base : Base) (url : String), IsBelow url →
      ∃ folder : String, Folder base.path.toList folder.toList ∧
        resolve base.text url = base.origin.text ++ folder ++ url) ∧
      (∀ (base : Base) (dir url : String), IsBelow dir → dir.toList.getLast? = some '/' →
        (∀ c ∈ dir.toList, c ∉ ['?', '#']) → IsBelow url →
          resolve (resolve base.text dir) url = resolve base.text (dir ++ url)) ∧
      ∀ base url : String, resolve base (resolve base url) = resolve base url := by
  refine ⟨fun base url below => ?_, fun base dir url => base.resolve_twice, resolve_resolve⟩
  obtain ⟨folder, stands, -⟩ := exists_folder base.rooted
  rw [← String.toList_ofList (l := folder)] at stands
  exact ⟨_, stands, base.resolve_below stands below⟩

/-- A cart in the old part of a shop is reached in two steps or in one, from a page with a slash in its query. -/
theorem resolution_composes_below_page :
    let base : Base :=
      { origin := ⟨"http", "app.test", by simp, by simp⟩
        path := "/shop/index", suffix := "?from=/"
        rooted := by simp, bounded := by simp, behind := by simp }
    IsBelow "old/" ∧ "old/".toList.getLast? = some '/' ∧ (∀ c ∈ "old/".toList, c ∉ ['?', '#']) ∧ IsBelow "cart?n=1" ∧
      resolve (resolve base.text "old/") "cart?n=1" = resolve base.text "old/cart?n=1" := by
  intro base
  have below : IsBelow "old/" := ⟨by decide, by simp, by decide⟩
  have bounded : ∀ c ∈ "old/".toList, c ∉ ['?', '#'] := by simp
  have below' : IsBelow "cart?n=1" := ⟨by decide, by simp, by decide⟩
  exact ⟨below, rfl, bounded, below', resolution_composes.2.1 base "old/" "cart?n=1" below rfl bounded below'⟩

end BrowserWait.Url
