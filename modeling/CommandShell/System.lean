import CommandShell.Files.Operation

/-!
# A minimal system

The directories and devices that every system has, with a set of programs in the usual place.
-/

namespace CommandShell

namespace Tree

/-- A directory with the usual permissions. -/
def plainDirectory : Entry := ⟨.directory, Entry.directoryMode⟩

/-- A system with the given programs. -/
def minimal (programs : List String) : Tree :=
  ⟨[(["usr"], plainDirectory), (["usr", "bin"], plainDirectory), (["usr", "sbin"], plainDirectory),
      (["bin"], ⟨.link "usr/bin", 0o777⟩), (["sbin"], ⟨.link "usr/sbin", 0o777⟩), (["dev"], plainDirectory),
      (["dev", "null"], ⟨.sink, 0o666⟩), (["etc"], plainDirectory), (["tmp"], ⟨.directory, 0o777⟩),
      (["root"], ⟨.directory, 0o700⟩), (["var"], plainDirectory), (["var", "mail"], plainDirectory)] ++
    programs.map fun name => (["usr", "bin", name], ⟨.program name, 0o755⟩)⟩

end Tree

end CommandShell
