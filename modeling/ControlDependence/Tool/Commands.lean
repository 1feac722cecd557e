-- SUMMARY: The commands of the tool and their flags.
import ControlDependence.CommandLine.Usage

/-!
# Commands of the tool
-/
namespace ControlDependence.Tool

open CommandLine

def name : String := "slice"

def version : String := "dev"

def root : Command where
  path := []
  short := "Control-dependence analysis for Go code"
  long := "slice computes, for every SSA instruction of a Go function, the branch\n" ++
    "instructions whose outcome decides whether it executes."
  runs := false

def cdeps : Command where
  path := ["cdeps"]
  operands := "[packages...]"
  short := "Print the control dependencies of every function in the given packages"
  long := "cdeps loads the packages, builds their SSA form and reports, for each\n" ++
    "function with a body, which branch instructions control each instruction.\n\n" ++
    "Package patterns are those accepted by 'go list'. Default: ./..."
  flags := [
    { name := "func", usage := "only analyze functions whose full name matches this regexp" },
    { name := "format", letter := some 'o'
      usage := "output format: text, json or yaml (overrides config)" },
    { name := "color", usage := "text color: auto, always or never (overrides config)" },
    { name := "workers", letter := some 'w', type := .int
      usage := "concurrent analyses (overrides config; 0 keeps config)" },
    { name := "dir", usage := "directory to resolve package patterns in" },
    { name := "chains", type := .truth, usage := "include transitive controller chains" },
    { name := "tests", type := .truth, usage := "include test files" },
    { name := "metrics-addr"
      usage := "serve Prometheus /metrics on this address while the run lasts (overrides config)" }]

def versionCommand : Command where
  path := ["version"]
  short := "Print the version"

def help : Command where
  path := [helpName]
  operands := "[command]"
  short := "Help about any command"
  long := "Help provides help for any command in the application.\n" ++
    "Simply type slice help [path to command] for full details."

def completion : Command where
  path := ["completion"]
  short := "Generate the autocompletion script for the specified shell"
  long := "Generate the autocompletion script for slice for the specified shell.\n" ++
    "See each sub-command's help for details on how to use the generated script."
  runs := false

/-- How to load the completion script of a shell. -/
def completionHelp (shell : String) : String :=
  let script := s!"{name} completion {shell}"
  let always := "To load completions for every new session, execute once:\n\n"
  let restart := "You will need to start a new shell for this setup to take effect."
  let systems := fun (linux mac : String) =>
    s!"{always}#### Linux:\n\n\t{script} > {linux}\n\n#### macOS:\n\n\t{script} > {mac}\n\n{restart}"
  let now := "To load completions in your current shell session:\n\n\t"
  match shell with
  | "bash" =>
    "Generate the autocompletion script for the bash shell.\n\n" ++
    "This script depends on the 'bash-completion' package.\n" ++
    "If it is not installed already, you can install it via your OS's package manager.\n\n" ++
    s!"{now}source <({script})\n\n" ++
    systems s!"/etc/bash_completion.d/{name}" s!"$(brew --prefix)/etc/bash_completion.d/{name}"
  | "zsh" =>
    "Generate the autocompletion script for the zsh shell.\n\n" ++
    "If shell completion is not already enabled in your environment you will need\n" ++
    "to enable it.  You can execute the following once:\n\n" ++
    "\techo \"autoload -U compinit; compinit\" >> ~/.zshrc\n\n" ++
    s!"{now}source <({script})\n\n" ++
    systems ("\"$\x7bfpath[1]\x7d/_" ++ name ++ "\"")
      s!"$(brew --prefix)/share/zsh/site-functions/_{name}"
  | "fish" =>
    "Generate the autocompletion script for the fish shell.\n\n" ++
    s!"{now}{script} | source\n\n" ++
    s!"{always}\t{script} > ~/.config/fish/completions/{name}.fish\n\n{restart}"
  | _ =>
    s!"Generate the autocompletion script for {shell}.\n\n" ++
    s!"{now}{script} | Out-String | Invoke-Expression\n\n" ++
    "To load completions for every new session, add the output of the above command\n" ++
    s!"to your {shell} profile."

/-- The command for the completion script of a shell. -/
def completionFor (shell : String) : Command where
  path := ["completion", shell]
  short := "Generate the autocompletion script for " ++ shell
  long := completionHelp shell
  flags := [
    { name := "no-descriptions", type := .truth, usage := "disable completion descriptions" }]
  takesWords := false
  mentionsFlags := shell != "bash"

def program : Program where
  name
  globals := [
    { name := "config", usage := "path to a YAML config file merged over the defaults" },
    { name := "log-level", usage := "log level: debug, info, warn, error (overrides config)" }]
  root
  commands := [cdeps, versionCommand, help, completion] ++
    ["bash", "fish", "powershell", "zsh"].map completionFor

end ControlDependence.Tool
