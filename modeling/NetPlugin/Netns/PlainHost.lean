import NetPlugin.Netns.FileTree

/-
  A plain host on which one network namespace exists: the
  directories that every system has, and one process.

  Key definitions include:
    * `Netns.FileSystem`
    * `Netns.ownNetwork`
    * `Netns.processFiles`
    * `Netns.plainHost`
-/

------------------------------------------------------------
-- File Systems
------------------------------------------------------------

namespace NetPlugin

namespace Netns

/-
  A device, and the bound on names in its directories.  Its
  files need not be told apart.
-/
structure FileSystem where
  device : Device
  nameLimit : Option Nat
  deriving DecidableEq, Repr

namespace FileSystem

/- The identity that the files of a device share. -/
def id (system : FileSystem) : FileId :=
  { device := system.device, inode := 0 }

/- A directory with entries. -/
def directory (system : FileSystem)
    (entries : List (String × Node)) : Node :=
  .directory system.id system.nameLimit entries

/- Files with names. -/
def files (system : FileSystem) (names : List String) :
    List (String × Node) :=
  names.map fun name => (name, .file system.id)

/- Empty directories with names. -/
def directories (system : FileSystem)
    (names : List String) : List (String × Node) :=
  names.map fun name => (name, system.directory [])

end FileSystem

/- A link to a path. -/
def linkTo (name target : String) : String × Node :=
  (name, .link (.path target))

/- Where programs and data are kept. -/
def disk : FileSystem := ⟨.numbered 8 1, some 255⟩

/- What the kernel tells about processes. -/
def processes : FileSystem := ⟨.numbered 0 2, none⟩

/- The devices. -/
def devices : FileSystem := ⟨.numbered 0 3, some 255⟩

/- What the kernel tells about hardware. -/
def hardware : FileSystem := ⟨.numbered 0 4, none⟩

/- Pipes, which have no path. -/
def pipes : FileSystem := ⟨.internal 5, none⟩

------------------------------------------------------------
-- Processes
------------------------------------------------------------

/- The namespaces have numbers on a device of their own. -/
def namespaceId (number : Nat) : FileId :=
  { device := .namespaces, inode := number }

/- The network namespace of the host. -/
def ownNetwork : FileId := namespaceId 4

/- The namespaces of a process. -/
def namespaces : Node :=
  processes.directory
    ([("cgroup", 1), ("ipc", 2), ("mnt", 3), ("net", 4),
        ("pid", 5), ("pid_for_children", 5), ("time", 6),
        ("time_for_children", 6), ("user", 7),
        ("uts", 8)].map
      fun (name, number) =>
        (name, .link (.opened (namespaceId number))))

/- The three streams of a process. -/
def streams : Node :=
  processes.directory
    (["0", "1", "2"].map
      fun name => (name, .link (.opened pipes.id)))

/- What the kernel tells about the network. -/
def network : Node :=
  processes.directory
    (processes.directories
        ["dev_snmp6", "netfilter", "stat"] ++
      processes.files
        ["anycast6", "arp", "connector", "dev",
          "dev_mcast", "fib_trie", "fib_triestat", "icmp",
          "icmp6", "if_inet6", "igmp", "igmp6",
          "ip6_flowlabel", "ipv6_route", "mcfilter",
          "mcfilter6", "netlink", "netstat", "packet",
          "protocols", "psched", "ptype", "raw", "raw6",
          "route", "rt6_stats", "rt_acct", "rt_cache",
          "snmp", "snmp6", "sockstat", "sockstat6",
          "softnet_stat", "tcp", "tcp6", "udp", "udp6",
          "udplite", "udplite6", "unix", "xfrm_stat"])

/- What processes and their threads both have. -/
def threadFiles : List (String × Node) :=
  [("ns", namespaces), ("fd", streams), ("net", network),
    ("fdinfo",
      processes.directory
        (processes.files ["0", "1", "2"])),
    ("attr",
      processes.directory
        (processes.files
          ["current", "exec", "fscreate", "keycreate",
            "prev", "sockcreate"])),
    ("exe", .link (.opened disk.id)),
    linkTo "cwd" "/work", linkTo "root" "/"] ++
  processes.files
    ["arch_status", "auxv", "cgroup", "clear_refs",
      "cmdline", "comm", "cpuset", "environ", "gid_map",
      "io", "limits", "loginuid", "maps", "mem",
      "mountinfo", "mounts", "numa_maps", "oom_adj",
      "oom_score", "oom_score_adj", "pagemap",
      "personality", "projid_map", "sched", "schedstat",
      "sessionid", "setgroups", "smaps", "smaps_rollup",
      "stack", "stat", "statm", "status", "syscall",
      "uid_map", "wchan"]

/- A thread. -/
def thread : Node :=
  processes.directory
    (threadFiles ++ processes.files ["children"])

/- What processes have, and threads have not. -/
def processFiles : List (String × Node) :=
  threadFiles ++
  [("task", processes.directory [("1", thread)]),
    ("map_files", processes.directory [])] ++
  processes.files
    ["autogroup", "coredump_filter", "mountstats",
      "timens_offsets", "timers", "timerslack_ns"]

/- The settings of the kernel. -/
def settings : Node :=
  processes.directory
    (processes.directories
        ["abi", "debug", "dev", "fs", "user", "vm"] ++
      [("kernel",
          processes.directory
            (processes.files
              ["core_pattern", "domainname", "hostname",
                "osrelease", "ostype", "pid_max",
                "threads-max", "version"])),
        ("net",
          processes.directory
            (processes.directories
              ["core", "ipv4", "ipv6", "unix"]))])

/- All that is known of processes. -/
def processTree : Node :=
  processes.directory
    ([linkTo "self" "1",
        linkTo "thread-self" "1/task/1",
        ("1", processes.directory processFiles),
        linkTo "mounts" "self/mounts",
        linkTo "net" "self/net",
        ("sys", settings)] ++
      processes.directories
        ["acpi", "bus", "driver", "fs", "irq", "pressure",
          "sysvipc", "tty"] ++
      processes.files
        ["buddyinfo", "cgroups", "cmdline", "consoles",
          "cpuinfo", "crypto", "devices", "diskstats",
          "dma", "execdomains", "filesystems",
          "interrupts", "iomem", "ioports", "kallsyms",
          "kcore", "key-users", "keys", "kmsg",
          "kpagecgroup", "kpagecount", "kpageflags",
          "loadavg", "locks", "meminfo", "misc", "modules",
          "mtrr", "pagetypeinfo", "partitions",
          "schedstat", "slabinfo", "softirqs", "stat",
          "swaps", "sysrq-trigger", "timer_list",
          "uptime", "version", "vmallocinfo", "vmstat",
          "zoneinfo"])

------------------------------------------------------------
-- The Host
------------------------------------------------------------

/- The devices that every system has. -/
def deviceTree : Node :=
  devices.directory
    (devices.files
        ["full", "null", "ptmx", "random", "tty",
          "urandom", "zero"] ++
      [("pts", devices.directory (devices.files ["ptmx"]))] ++
      devices.directories ["mqueue", "shm"] ++
      [linkTo "core" "/proc/kcore",
        linkTo "fd" "/proc/self/fd",
        linkTo "stderr" "/proc/self/fd/2",
        linkTo "stdin" "/proc/self/fd/0",
        linkTo "stdout" "/proc/self/fd/1"])

/- What the kernel tells about hardware. -/
def hardwareTree : Node :=
  hardware.directory
    ([("class",
          hardware.directory
            [("net",
              hardware.directory
                (hardware.directories ["lo"]))]),
        ("dev",
          hardware.directory
            (hardware.directories ["block", "char"])),
        ("fs",
          hardware.directory
            (hardware.directories ["cgroup"]))] ++
      hardware.directories
        ["block", "bus", "devices", "firmware", "kernel",
          "module", "power"])

/- The settings of programs. -/
def settingTree : Node :=
  disk.directory
    (linkTo "os-release" "../usr/lib/os-release" ::
      disk.files
        ["group", "host.conf", "hostname", "hosts",
          "nsswitch.conf", "passwd", "profile",
          "resolv.conf", "shadow"])

/- Programs. -/
def programTree : Node :=
  disk.directory
    ([("bin",
          disk.directory
            (disk.files
              ["bash", "cat", "cp", "echo", "env", "false",
                "ls", "mkdir", "mv", "rm", "sh", "sleep",
                "true"])),
        ("lib", disk.directory (disk.files ["os-release"])),
        ("local",
          disk.directory
            (disk.directories
              ["bin", "include", "lib", "sbin", "share"]))] ++
      disk.directories
        ["games", "include", "lib64", "sbin", "share",
          "src"])

/- What changes while programs run. -/
def stateTree : Node :=
  disk.directory
    ([linkTo "lock" "/run/lock", linkTo "run" "/run"] ++
      disk.directories
        ["backups", "cache", "lib", "local", "log", "mail",
          "opt", "spool", "tmp"])

/- The root of the host. -/
def plainRoot : Node :=
  disk.directory
    ([("proc", processTree), ("dev", deviceTree),
        ("sys", hardwareTree), ("etc", settingTree),
        ("usr", programTree), ("var", stateTree),
        ("run", disk.directory (disk.directories ["lock"])),
        linkTo "bin" "usr/bin", linkTo "lib" "usr/lib",
        linkTo "lib64" "usr/lib64",
        linkTo "sbin" "usr/sbin"] ++
      disk.directories
        ["boot", "home", "media", "mnt", "opt", "root",
          "srv", "tmp", "work"])

/- The host.  Processes run in an empty directory. -/
def plainHost : Host :=
  { root := plainRoot, working := "/work" }

/- The own path leads to the own namespace. -/
theorem plainHost_identify_ownPath :
    plainHost.identify ownPath = .ok ownNetwork := by
  rfl

/- A thread is below the directory of its process. -/
example :
    (plainHost.identify
        "/proc/thread-self/../../ns/net").toOption =
      some ownNetwork := by
  decide +kernel

/- A namespace is no directory. -/
example :
    (plainHost.identify "/proc/self/ns/net/").toOption =
      none := by
  decide +kernel

end Netns

end NetPlugin
