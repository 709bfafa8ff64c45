import CrashTrace.System.Path

/-!
# What is on every system

The directories, devices and files that are there before anybody has made any, as far as opening
them for output goes.

## Main definitions

- `UsualFiles.directories`, `UsualFiles.links` — the usual directories, and other names of places
- `UsualFiles.devices` — devices, most of which swallow what they are sent
- `UsualFiles.processFiles` — what the system tells about itself and about the process
- `FileTree.usual` — all of it as a tree

## Design notes

Nothing can be made where the system tells about itself. Most of what it tells can be opened for
output but takes no bytes: facts about the system fail in one way, facts about a process in
another.
-/

namespace CrashTrace

namespace UsualFiles

def placeOf (path : String) : FilePlace := FileTree.namesOf path.toList

/-- Names in a directory that all lead to the same. -/
def within (directory : String) (target : PathTarget) (names : List String) :
    Entries FilePlace PathTarget :=
  names.map fun name => (placeOf directory ++ [name.toList], target)

def directories : Entries FilePlace PathTarget :=
  within "/" .directory
      ["boot", "dev", "etc", "home", "media", "mnt", "opt", "root", "run", "srv", "tmp", "usr",
        "var"]
    ++ within "/dev" .directory ["shm"]
    ++ within "/etc" .directory
      ["alternatives", "apt", "cron.d", "cron.daily", "default", "dpkg", "init.d", "ld.so.conf.d",
        "logrotate.d", "opt", "pam.d", "profile.d", "security", "selinux", "skel", "ssl", "systemd",
        "terminfo"]
    ++ within "/run" .directory ["lock"]
    ++ within "/usr" .directory
      ["bin", "games", "include", "lib", "lib64", "libexec", "local", "sbin", "share", "src"]
    ++ within "/usr/lib" .directory ["dpkg", "init", "systemd", "udev", "x86_64-linux-gnu"]
    ++ within "/usr/local" .directory
      ["bin", "etc", "games", "include", "lib", "man", "sbin", "share", "src"]
    ++ within "/usr/share" .directory
      ["common-licenses", "doc", "info", "locale", "man", "misc", "perl5", "terminfo", "zoneinfo"]
    ++ within "/var" .directory ["backups", "cache", "lib", "local", "log", "mail", "opt", "spool",
      "tmp"]
    ++ within "/var/cache" .directory ["apt", "debconf", "ldconfig"]
    ++ within "/var/lib" .directory ["apt", "dpkg", "misc", "pam", "systemd"]
    ++ within "/var/log" .directory ["apt"]

/-- Other names of places. Relative paths begin at `start`. -/
def links (start : FilePlace) : Entries FilePlace PathTarget :=
  (placeOf "/proc/self/cwd", .link start) ::
    ([("/bin", "/usr/bin"), ("/sbin", "/usr/sbin"), ("/lib", "/usr/lib"), ("/lib64", "/usr/lib64"),
      ("/var/run", "/run"), ("/var/lock", "/run/lock"), ("/dev/fd", "/proc/self/fd"),
      ("/dev/stdin", "/proc/self/fd/0"), ("/dev/stdout", "/proc/self/fd/1"),
      ("/dev/stderr", "/proc/self/fd/2"), ("/proc/self/root", "/"),
      ("/proc/net", "/proc/self/net"), ("/proc/mounts", "/proc/self/mounts"),
      ("/proc/thread-self", "/proc/self"), ("/etc/mtab", "/proc/self/mounts")].map
        fun (path, place) => (placeOf path, .link (placeOf place)))

/-- Devices, and the open descriptors of the process. -/
def devices : Entries FilePlace PathTarget :=
  within "/dev" (.output .file) ["console", "null", "ptmx", "random", "urandom", "zero"]
    ++ within "/dev" (.output .full) ["full"]
    ++ within "/dev" (.locked .noDevice) ["tty"]
    ++ within "/dev" (.sealed .permissionDenied) ["pts"]
    ++ within "/proc/self/fd" (.output .file) ["0"]
    ++ within "/proc/self/fd" (.output .output) ["1"]
    ++ within "/proc/self/fd" (.output .errors) ["2"]

/-- What the system tells about itself, and about the process. -/
def processFiles : Entries FilePlace PathTarget :=
  within "/" (.sealed .noSuchFile) ["proc"]
    ++ within "/proc" (.sealed .noSuchFile)
      ["1", "acpi", "bus", "driver", "fs", "irq", "pressure", "self", "sys", "sysvipc", "tty"]
    ++ within "/proc" (.output (.refusing .transferFailed))
      ["cmdline", "consoles", "cpuinfo", "crypto", "devices", "diskstats", "execdomains",
        "filesystems", "interrupts", "iomem", "ioports", "kallsyms", "key-users", "keys", "loadavg",
        "locks", "meminfo", "misc", "partitions", "softirqs", "stat", "swaps", "timer_list",
        "uptime", "version", "vmstat", "zoneinfo"]
    ++ within "/proc/1" (.locked .permissionDenied) ["cwd", "exe", "root"]
    ++ within "/proc/sys" (.sealed .noSuchFile) ["dev", "fs", "kernel", "net", "user", "vm"]
    ++ within "/proc/sys/kernel" (.locked .permissionDenied) ["osrelease", "ostype", "version"]
    ++ within "/proc/self" (.sealed .noSuchFile)
      ["attr", "fd", "fdinfo", "map_files", "net", "ns", "task"]
    ++ within "/proc/self" (.output (.refusing .invalidArgument))
      ["auxv", "cgroup", "cmdline", "coredump_filter", "cpuset", "environ", "io", "limits", "maps",
        "mountinfo", "mounts", "mountstats", "numa_maps", "oom_score", "oom_score_adj", "pagemap",
        "personality", "schedstat", "sessionid", "smaps", "smaps_rollup", "stack", "stat", "statm",
        "status", "syscall", "timers", "wchan"]
    ++ within "/proc/self" (.output .file) ["comm"]
    ++ within "/proc/self" (.output (.refusing .transferFailed)) ["mem"]
    ++ within "/proc/self" (.locked .fileBusy) ["exe"]
    ++ within "/proc/self/fdinfo" (.output (.refusing .invalidArgument)) ["0", "1", "2"]
    ++ within "/proc/self/net" (.locked .permissionDenied)
      ["arp", "dev", "route", "tcp", "tcp6", "udp", "udp6", "unix"]
    ++ within "/proc/self/ns" (.locked .notPermitted)
      ["cgroup", "ipc", "mnt", "net", "pid", "pid_for_children", "time", "time_for_children",
        "user", "uts"]
    ++ within "/" (.sealed .permissionDenied) ["sys"]
    ++ within "/sys" (.sealed .permissionDenied)
      ["block", "bus", "class", "dev", "devices", "firmware", "fs", "kernel", "module", "power"]
    ++ within "/sys/class" (.sealed .permissionDenied) ["block", "mem", "misc", "net", "tty"]
    ++ within "/sys/devices" (.sealed .permissionDenied) ["system", "virtual"]
    ++ within "/sys/fs" (.sealed .permissionDenied) ["cgroup"]

/-- Files that come with every system. -/
def files : Entries FilePlace PathTarget :=
  within "/etc" (.output .file)
      ["fstab", "group", "hostname", "hosts", "issue", "nsswitch.conf", "os-release", "passwd",
        "profile", "resolv.conf", "shadow"]
    ++ within "/usr/bin" (.output .file) ["bash", "cat", "env", "false", "ls", "sh", "true"]

end UsualFiles

/-- A system with nothing unusual on it. Relative paths begin in an empty directory. -/
def FileTree.usual : FileTree :=
  let start := UsualFiles.placeOf "/tmp"
  ⟨UsualFiles.directories ++ UsualFiles.links start ++ UsualFiles.devices
    ++ UsualFiles.processFiles ++ UsualFiles.files, start⟩

end CrashTrace
