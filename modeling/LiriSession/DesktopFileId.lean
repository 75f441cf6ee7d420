import LiriSession.ProcessLauncher

/-! The id that the launcher makes of the path of a desktop file: every occurrence of the
directory's path is taken out, and then what a regular expression finds at the end. -/
namespace LiriSession

/-- The name of an entry in a directory. -/
structure FileName where
  text : String
  nonempty : text ≠ ""
  plain : '/' ∉ text.toList

/-- An existing file: the names of its directories from the root on, and its own. -/
structure CanonicalFile where
  directories : List FileName
  name : FileName

namespace CanonicalFile

/-- The path of the directory, which for the root is empty here. -/
def prefixText (directories : List FileName) : List Char :=
  directories.flatMap fun directory => '/'::directory.text.toList

def canonicalPath (file : CanonicalFile) : String :=
  if file.directories = [] then "/" else String.ofList (prefixText file.directories)

def canonicalFilePath (file : CanonicalFile) : String :=
  String.ofList (prefixText file.directories ++ '/'::file.name.text.toList)

end CanonicalFile

namespace ProcessLauncher

def desktop : List Char := ['d','e','s','k','t','o','p']

def suffix : List Char := '.'::desktop

/-- What the id is meant to be: the name without the literal text `.desktop` at its end. -/
def withoutSuffix (name : List Char) : List Char :=
  if suffix <:+ name then name.take (name.length - suffix.length) else name

/-- The regular expression finds something: any character but a line feed, then `desktop`,
at the end or before a last line feed. -/
def SuffixMatches (text : List Char) : Prop := ∃ front char, char ≠ '\n' ∧
  (text = front ++ char::desktop ∨ text = front ++ char::(desktop ++ ['\n']))

theorem beforeSuffix_eq_some (reversed front : List Char) : beforeSuffix reversed = some front ↔
    ∃ char, char ≠ '\n' ∧ reversed = desktop.reverse ++ char::front := by
  rw [show desktop.reverse = ['p','o','t','k','s','e','d'] from rfl]
  unfold beforeSuffix
  split
  next char rest =>
    split
    next line => simp [line]
    next other => simp [other]
  next unmatched =>
    apply iff_of_false (by simp)
    rintro ⟨char,_,same⟩
    exact unmatched char front same

theorem removeSuffix_end (front : List Char) (char : Char) (other : char ≠ '\n') :
    removeSuffix (front ++ char::desktop) = front := by
  have reversed : (front ++ char::desktop).reverse =
      ['p','o','t','k','s','e','d'] ++ char::front.reverse := by simp [desktop]
  unfold removeSuffix
  rw [reversed]
  simp [beforeSuffix,other]

theorem removeSuffix_line (front : List Char) (char : Char) (other : char ≠ '\n') :
    removeSuffix (front ++ char::(desktop ++ ['\n'])) = front ++ ['\n'] := by
  have reversed : (front ++ char::(desktop ++ ['\n'])).reverse =
      ['\n','p','o','t','k','s','e','d'] ++ char::front.reverse := by simp [desktop]
  unfold removeSuffix
  rw [reversed]
  simp [beforeSuffix,other]

theorem removeSuffix_of_not (text : List Char) (unmatched : ¬SuffixMatches text) :
    removeSuffix text = text := by
  unfold removeSuffix
  split
  next _ reversed split =>
    cases found : beforeSuffix reversed with
    | none => rfl
    | some front =>
      obtain ⟨char,other,same⟩ := (beforeSuffix_eq_some reversed front).mp found
      refine absurd ⟨front.reverse,char,other,.inr ?_⟩ unmatched
      rw [← List.reverse_reverse text,split,same]
      simp
  next reversed _ =>
    cases found : beforeSuffix text.reverse with
    | none => rfl
    | some front =>
      obtain ⟨char,other,same⟩ := (beforeSuffix_eq_some text.reverse front).mp found
      refine absurd ⟨front.reverse,char,other,.inl ?_⟩ unmatched
      rw [← List.reverse_reverse text,same]
      simp

/-- A match takes eight characters. -/
theorem removeSuffix_length (text : List Char) (matched : SuffixMatches text) :
    (removeSuffix text).length + suffix.length = text.length := by
  obtain ⟨front,char,other,rfl | rfl⟩ := matched
  · rw [removeSuffix_end front char other]
    simp [suffix]
  · rw [removeSuffix_line front char other]
    simp only [suffix,List.length_append,List.length_cons,List.length_nil]
    omega

theorem removeAll_append (text taken rest : List Char) :
    removeAll text taken.length (taken ++ rest) = removeAll text 0 rest := by
  induction taken with
  | nil => rfl
  | cons char taken ih => exact ih

theorem removeAll_occurrence (text rest : List Char) (nonempty : text ≠ []) :
    removeAll text 0 (text ++ rest) = removeAll text 0 rest := by
  cases text with
  | nil => exact absurd rfl nonempty
  | cons char text =>
    have found : (char::text).isPrefixOf (char::(text ++ rest)) = true :=
      List.isPrefixOf_iff_prefix.mpr (List.prefix_append (char::text) rest)
    rw [List.cons_append,removeAll,if_pos (by simp [found])]
    exact removeAll_append (char::text) text rest

theorem removeAll_absent (char : Char) (text rest : List Char) (absent : char ∉ rest) :
    removeAll (char::text) 0 rest = rest := by
  induction rest with
  | nil => rfl
  | cons head rest ih =>
    obtain ⟨apart,later⟩ := not_or.mp (List.mem_cons.not.mp absent)
    rw [removeAll,if_neg (by simp [apart]),ih later]

theorem removeAll_unmatched (text rest : List Char) (char : Char) (unmatched : ¬text <+: char::rest) :
    removeAll text 0 (char::rest) = char::removeAll text 0 rest := by
  have other : text.isPrefixOf (char::rest) = false := by
    simpa [← List.isPrefixOf_iff_prefix] using unmatched
  rw [removeAll,if_neg (by simp [other])]

/-- What is left when the directory is taken out is the id but for a slash and the suffix. -/
theorem id_of_removed (system : System) (fileName : String) (text : List Char) (plain : '/' ∉ text)
    (removed : removeAll (system.canonicalPath fileName).toList 0
      (system.canonicalFilePath fileName).toList = '/'::text ∨
      removeAll (system.canonicalPath fileName).toList 0
        (system.canonicalFilePath fileName).toList = text) :
    id system fileName = String.ofList (removeSuffix text) := by
  have unchanged : text.map (fun char => if char = '/' then '-' else char) = text := by
    have same : ∀ char ∈ text, (if char = '/' then '-' else char) = char := by
      intro char member
      apply if_neg
      intro slash
      exact plain (slash ▸ member)
    rw [List.map_congr_left same,List.map_id']
  have bare : (if text.head? = some '/' then text.tail else text) = text := by
    apply if_neg
    intro slash
    exact plain (List.mem_of_mem_head? slash)
  unfold id
  dsimp only
  rcases removed with slash | none
  · rw [slash,List.head?_cons,if_pos rfl,List.tail_cons,unchanged]
  · rw [none,bare,unchanged]

/-- The only directory on the path begins the name too, and the rest follows. -/
def Repeats (file : CanonicalFile) (rest : List Char) : Prop :=
  ∃ directory, file.directories = [directory] ∧ file.name.text.toList = directory.text.toList ++ rest

/-- The regular expression finds nothing in the name but the suffix, and nothing is taken out
twice, or what is taken out twice stands for the suffix. -/
def Recoverable (file : CanonicalFile) : Prop :=
  (∃ rest, Repeats file rest ∧ file.name.text.toList = rest ++ suffix ∧ ¬SuffixMatches rest) ∨
  (∀ rest, ¬Repeats file rest) ∧
    (suffix <:+ file.name.text.toList ∨ ¬SuffixMatches file.name.text.toList)

/-- What Qt answers for an existing file. -/
structure Resolves (system : System) (fileName : String) (file : CanonicalFile) : Prop where
  canonicalFilePath : system.canonicalFilePath fileName = file.canonicalFilePath
  canonicalPath : system.canonicalPath fileName = file.canonicalPath

theorem id_in_root (system : System) (fileName : String) (file : CanonicalFile)
    (resolves : Resolves system fileName file) (root : file.directories = []) :
    id system fileName = String.ofList (removeSuffix file.name.text.toList) := by
  apply id_of_removed system fileName _ file.name.plain
  have path : (system.canonicalFilePath fileName).toList = ['/'] ++ file.name.text.toList := by
    rw [resolves.canonicalFilePath,CanonicalFile.canonicalFilePath,String.toList_ofList,root]
    rfl
  have directory : (system.canonicalPath fileName).toList = ['/'] := by
    rw [resolves.canonicalPath,CanonicalFile.canonicalPath,if_pos root]
    rfl
  rw [path,directory,removeAll_occurrence _ _ (List.cons_ne_nil _ _)]
  exact .inr (removeAll_absent '/' [] file.name.text.toList file.name.plain)

/-- In a directory with a name the directory goes first, and what follows is a slash. -/
theorem removed_below (system : System) (fileName : String) (file : CanonicalFile)
    (directory : FileName) (others : List FileName) (resolves : Resolves system fileName file)
    (below : file.directories = directory::others) :
    let text := '/'::(directory.text.toList ++ CanonicalFile.prefixText others)
    removeAll (system.canonicalPath fileName).toList 0 (system.canonicalFilePath fileName).toList =
      removeAll text 0 ('/'::file.name.text.toList) ∧ (system.canonicalPath fileName).toList = text := by
  intro text
  have path : (system.canonicalFilePath fileName).toList = text ++ '/'::file.name.text.toList := by
    rw [resolves.canonicalFilePath,CanonicalFile.canonicalFilePath,String.toList_ofList,below]
    rfl
  have located : (system.canonicalPath fileName).toList = text := by
    rw [resolves.canonicalPath,CanonicalFile.canonicalPath,below,if_neg (List.cons_ne_nil _ _),
      String.toList_ofList]
    rfl
  rw [path,located,removeAll_occurrence _ _ (List.cons_ne_nil _ _)]
  exact ⟨rfl,rfl⟩

theorem id_of_repeats (system : System) (fileName : String) (file : CanonicalFile) (rest : List Char)
    (resolves : Resolves system fileName file) (repeated : Repeats file rest) :
    id system fileName = String.ofList (removeSuffix rest) := by
  obtain ⟨directory,only,split⟩ := repeated
  have plain : '/' ∉ rest := by
    intro slash
    exact file.name.plain (split ▸ List.mem_append_right _ slash)
  apply id_of_removed system fileName rest plain
  have twice : '/'::file.name.text.toList =
      '/'::(directory.text.toList ++ CanonicalFile.prefixText []) ++ rest := by
    rw [split]
    simp [CanonicalFile.prefixText]
  rw [(removed_below system fileName file directory [] resolves only).1,twice,
    removeAll_occurrence _ _ (List.cons_ne_nil _ _)]
  exact .inr (removeAll_absent '/' _ rest plain)

theorem id_of_not_repeats (system : System) (fileName : String) (file : CanonicalFile)
    (resolves : Resolves system fileName file) (once : ∀ rest, ¬Repeats file rest) :
    id system fileName = String.ofList (removeSuffix file.name.text.toList) := by
  cases below : file.directories with
  | nil => exact id_in_root system fileName file resolves below
  | cons directory others =>
    have unmatched : ¬('/'::(directory.text.toList ++ CanonicalFile.prefixText others)) <+:
        '/'::file.name.text.toList := by
      intro found
      obtain ⟨rest,split⟩ := (List.cons_prefix_cons.mp found).2
      cases others with
      | nil =>
        refine once rest ⟨directory,below,?_⟩
        rw [← split]
        simp [CanonicalFile.prefixText]
      | cons other others =>
        apply file.name.plain
        rw [← split]
        simp [CanonicalFile.prefixText]
    apply id_of_removed system fileName _ file.name.plain
    rw [(removed_below system fileName file directory others resolves below).1,
      removeAll_unmatched _ _ _ unmatched]
    exact .inl (congrArg (List.cons '/') (removeAll_absent '/' _ _ file.name.plain))

theorem withoutSuffix_of_suffix (front : List Char) : withoutSuffix (front ++ suffix) = front := by
  unfold withoutSuffix
  rw [if_pos (List.suffix_append front suffix)]
  simp

/-- Nothing but the suffix is lost at the end. -/
theorem removeSuffix_eq_iff (name : List Char) : removeSuffix name = withoutSuffix name ↔
    suffix <:+ name ∨ ¬SuffixMatches name := by
  by_cases ends : suffix <:+ name
  · obtain ⟨front,rfl⟩ := ends
    apply iff_of_true _ (.inl (List.suffix_append front suffix))
    rw [withoutSuffix_of_suffix]
    exact removeSuffix_end front '.' (by decide)
  · have kept : withoutSuffix name = name := if_neg ends
    rw [kept]
    apply Iff.intro
    · intro same
      refine .inr fun matched => ?_
      have shorter := removeSuffix_length name matched
      rw [same] at shorter
      simp [suffix] at shorter
    · intro condition
      exact removeSuffix_of_not name (condition.resolve_left ends)

/-- What is taken out twice has to be as long as the suffix. -/
theorem removeSuffix_repeats_iff (taken rest : List Char) (nonempty : taken ≠ []) :
    removeSuffix rest = withoutSuffix (taken ++ rest) ↔
      taken ++ rest = rest ++ suffix ∧ ¬SuffixMatches rest := by
  have positive := List.length_pos_iff.mpr nonempty
  by_cases matched : SuffixMatches rest
  · apply iff_of_false
    · intro same
      have shorter := removeSuffix_length rest matched
      rw [same] at shorter
      unfold withoutSuffix at shorter
      split at shorter
      · simp at shorter
        omega
      · simp at shorter
        omega
    · exact fun both => both.2 matched
  · rw [removeSuffix_of_not rest matched]
    simp only [matched,not_false_eq_true,and_true]
    apply Iff.intro
    · intro same
      by_cases ends : suffix <:+ taken ++ rest
      · obtain ⟨front,split⟩ := ends
        rw [← split,withoutSuffix_of_suffix] at same
        subst same
        exact split.symm
      · rw [withoutSuffix,if_neg ends] at same
        have lengths := congrArg List.length same
        simp at lengths
        exact absurd lengths nonempty
    · intro split
      rw [split,withoutSuffix_of_suffix]

/-- The id is the name without the suffix exactly when nothing more is found in the path. -/
theorem id_iff (system : System) (fileName : String) (file : CanonicalFile)
    (resolves : Resolves system fileName file) :
    id system fileName = String.ofList (withoutSuffix file.name.text.toList) ↔ Recoverable file := by
  by_cases repeated : ∃ rest, Repeats file rest
  · obtain ⟨rest,repeats⟩ := repeated
    obtain ⟨directory,only,split⟩ := repeats
    have nonempty : directory.text.toList ≠ [] := by
      simpa using directory.nonempty
    rw [id_of_repeats system fileName file rest resolves ⟨directory,only,split⟩,String.ofList_inj,split,
      removeSuffix_repeats_iff _ _ nonempty]
    apply Iff.intro
    · intro both
      exact .inl ⟨rest,⟨directory,only,split⟩,split.trans both.1,both.2⟩
    · intro recoverable
      rcases recoverable with ⟨other,⟨same,alone,parts⟩,whole,unmatched⟩ | ⟨once,_⟩
      · rw [only] at alone
        cases alone
        have tail : rest = other := List.append_cancel_left (split.symm.trans parts)
        subst tail
        exact ⟨split.symm.trans whole,unmatched⟩
      · exact absurd ⟨directory,only,split⟩ (once rest)
  · have once := not_exists.mp repeated
    rw [id_of_not_repeats system fileName file resolves once,String.ofList_inj,removeSuffix_eq_iff]
    apply Iff.intro
    · exact fun condition => .inr ⟨once,condition⟩
    · intro recoverable
      rcases recoverable with ⟨rest,repeats,_⟩ | ⟨_,condition⟩
      · exact absurd repeats (once rest)
      · exact condition

def viewerFile : CanonicalFile where
  directories := [⟨"usr",by decide,by decide⟩,⟨"share",by decide,by decide⟩,
    ⟨"applications",by decide,by decide⟩]
  name := ⟨"viewer.desktop",by decide,by decide⟩

theorem viewer_id : id viewerSystem "/usr/share/applications/viewer.desktop" =
    String.ofList (withoutSuffix "viewer.desktop".toList) := by
  apply (id_iff viewerSystem _ viewerFile ⟨by decide,by decide⟩).mpr
  refine .inr ⟨?_,.inl (by decide)⟩
  rintro rest ⟨directory,only,_⟩
  cases only

/-- A directory below the root with a file whose name begins with its name. -/
def toolsFile : CanonicalFile where
  directories := [⟨"opt",by decide,by decide⟩]
  name := ⟨"opt-tools.desktop",by decide,by decide⟩

def toolsSystem : System :=
  { viewerSystem with
    canonicalFilePath := fun _ => "/opt/opt-tools.desktop"
    canonicalPath := fun _ => "/opt" }

theorem directory_taken_twice : ¬ ∀ (system : System) (fileName : String) (file : CanonicalFile),
    Resolves system fileName file →
      id system fileName = String.ofList (withoutSuffix file.name.text.toList) := by
  intro all
  have same := all toolsSystem "/opt/opt-tools.desktop" toolsFile ⟨by decide,by decide⟩
  exact absurd same (by decide)

end ProcessLauncher

end LiriSession
