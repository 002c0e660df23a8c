import CallForest.Shell.State

/-!
# Settings of the shell

The options that change how the shell works, each of which has a letter and a name, and what can be
switched on and off in the extended shell besides.
-/

namespace CallForest.Shell

/-- The letters of the options with their names; not all of them change anything here. -/
def settingNames : List (Char × String) :=
  [('e', "errexit"), ('f', "noglob"), ('I', "ignoreeof"), ('i', "interactive"), ('m', "monitor"),
    ('n', "noexec"), ('s', "stdin"), ('x', "xtrace"), ('v', "verbose"), ('V', "vi"),
    ('E', "emacs"), ('C', "noclobber"), ('a', "allexport"), ('b', "notify"), ('u', "nounset"),
    ('p', "privileged"), (Char.ofNat 1, "nolog"), (Char.ofNat 2, "debug")]

/-- The options of the extended shell, each with its letter if it has one. -/
def extendedSettings : List (String × Option Char) :=
  [("allexport", some 'a'), ("braceexpand", some 'B'), ("emacs", none), ("errexit", some 'e'),
    ("errtrace", some 'E'), ("functrace", some 'T'), ("hashall", some 'h'),
    ("histexpand", some 'H'), ("history", none), ("ignoreeof", none),
    ("interactive-comments", none), ("keyword", some 'k'), ("monitor", some 'm'),
    ("noclobber", some 'C'), ("noexec", some 'n'), ("noglob", some 'f'), ("nolog", none),
    ("notify", some 'b'), ("nounset", some 'u'), ("onecmd", some 't'), ("physical", some 'P'),
    ("pipefail", none), ("posix", none), ("privileged", some 'p'), ("verbose", some 'v'),
    ("vi", none), ("xtrace", some 'x')]

/-- What can be switched on or off by `shopt`, and whether it is on at first. -/
def switchNames : List (String × Bool) :=
  [("autocd", false), ("assoc_expand_once", false), ("cdable_vars", false), ("cdspell", false),
    ("checkhash", false), ("checkjobs", false), ("checkwinsize", true), ("cmdhist", true),
    ("compat31", false), ("compat32", false), ("compat40", false), ("compat41", false),
    ("compat42", false), ("compat43", false), ("compat44", false), ("complete_fullquote", true),
    ("direxpand", false), ("dirspell", false), ("dotglob", false), ("execfail", false),
    ("expand_aliases", false), ("extdebug", false), ("extglob", false), ("extquote", true),
    ("failglob", false), ("force_fignore", true), ("globasciiranges", true),
    ("globskipdots", true), ("globstar", false), ("gnu_errfmt", false), ("histappend", false),
    ("histreedit", false), ("histverify", false), ("hostcomplete", true), ("huponexit", false),
    ("inherit_errexit", false), ("interactive_comments", true), ("lastpipe", false),
    ("lithist", false), ("localvar_inherit", false), ("localvar_unset", false),
    ("login_shell", false), ("mailwarn", false), ("no_empty_cmd_completion", false),
    ("nocaseglob", false), ("nocasematch", false), ("noexpand_translation", false),
    ("nullglob", false), ("patsub_replacement", true), ("progcomp", true),
    ("progcomp_alias", false), ("promptvars", true), ("restricted_shell", false),
    ("shift_verbose", false), ("sourcepath", true), ("varredir_close", false),
    ("xpg_echo", false)]

/-- What is switched on when an extended shell begins. -/
def usualSwitches : List String :=
  "interactive-comments" :: (switchNames.filter Prod.snd).map Prod.fst

namespace State

/-- Sets an option or takes it back. -/
def withOption (st : State) (c : Char) (value : Bool) : State :=
  let others := st.options.filter (· ≠ c)
  { st with options := if value then others ++ [c] else others }

/-- Switches something on or off by its name. -/
def withSwitch (st : State) (name : String) (value : Bool) : State :=
  let others := st.switches.filter (· ≠ name)
  { st with switches := if value then others ++ [name] else others }

/-- Whether an option of the extended shell is set. -/
def hasExtended (st : State) (setting : String × Option Char) : Bool :=
  match setting.2 with
  | some c => st.has c
  | none => st.isOn setting.1

/-- The lines that tell which options are set, or, if `asCommands`, that set them. -/
def settingLines (st : State) (asCommands : Bool) : Octets :=
  match st.dialect with
  | .plain =>
    if asCommands then
      settingNames.flatMap fun (c, name) =>
        (if st.has c then "set -o " else "set +o ").toList ++ name.toList ++ ['\n']
    else
      "Current option settings\n".toList ++
        settingNames.flatMap fun (c, name) =>
          name.toList ++ List.replicate (16 - name.length) ' ' ++
            (if st.has c then "on\n" else "off\n").toList
  | .extended =>
    extendedSettings.flatMap fun setting =>
      let isSet := st.hasExtended setting
      let name := setting.1.toList
      if asCommands then
        (if isSet then "set -o " else "set +o ").toList ++ name ++ ['\n']
      else
        name ++ List.replicate (15 - name.length) ' ' ++
          (if isSet then "\ton\n" else "\toff\n").toList

/-- The names of the options of the extended shell that are set. -/
def settingsOn (st : State) : Octets :=
  [':'].intercalate ((extendedSettings.filter st.hasExtended).map fun s => s.1.toList)

/-- The names of what is switched on. -/
def switchesOn (st : State) : Octets :=
  [':'].intercalate ((switchNames.filter fun s => st.isOn s.1).map fun s => s.1.toList)

/-- The letters of the options of the plain shell that are set, the last of them first. -/
def plainLetters (st : State) : Octets :=
  (settingNames.reverse.filter fun s => 32 ≤ s.1.toNat && st.has s.1).map Prod.fst

/-- The letters of the options of the extended shell that are set, in order. -/
def letters (st : State) : Octets :=
  "abefhikmnprtuvxBCEHPTcs".toList.filter st.has

end State

end CallForest.Shell
