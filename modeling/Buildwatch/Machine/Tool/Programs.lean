import Buildwatch.Machine.Tool.Arranging
import Buildwatch.Machine.Tool.Comparing
import Buildwatch.Machine.Tool.Condition
import Buildwatch.Machine.Tool.Counting
import Buildwatch.Machine.Tool.Editing
import Buildwatch.Machine.Tool.Encoding
import Buildwatch.Machine.Tool.Feeding
import Buildwatch.Machine.Tool.Finding
import Buildwatch.Machine.Tool.Formula
import Buildwatch.Machine.Tool.Rules
import Buildwatch.Machine.Tool.Searching
import Buildwatch.Machine.Tool.Showing
import Buildwatch.Machine.Tool.Sorting
import Buildwatch.Machine.Tool.Starting
import Buildwatch.Machine.Tool.Telling

/-!
# Programs

The programs that come with the machine, apart from the shell: which tool each of them is.
-/

namespace Buildwatch.Machine.Programs

/-- A program: its name, the status with which it reports trouble, and what it does. -/
structure Program where
  name : String
  trouble : Nat := 1
  tool : Tool Nat

def digests : List Program :=
  Digest.kinds.map fun k => { name := k.name ++ "sum", tool := Digest.digests k }

def all : List Program :=
  [{ name := "[", trouble := 2, tool := Condition.test true },
    { name := "arch", tool := Telling.arch },
    { name := "awk", trouble := 2, tool := Rules.awk },
    { name := "base32", tool := Encoding.encodingTool (some Encoding.base32) },
    { name := "base64", tool := Encoding.encodingTool (some Encoding.base64) },
    { name := "basename", tool := Names.basename },
    { name := "basenc", tool := Encoding.encodingTool none },
    { name := "cat", tool := Showing.cat },
    { name := "chgrp", tool := Making.chown true },
    { name := "chmod", tool := Making.chmod },
    { name := "chown", tool := Making.chown false },
    { name := "cksum", tool := Digest.cksum },
    { name := "cmp", trouble := 2, tool := Comparing.cmp },
    { name := "comm", tool := Sorting.comm },
    { name := "cp", tool := Copying.cp },
    { name := "cut", tool := Cutting.cut },
    { name := "date", tool := Telling.date },
    { name := "dd", tool := Arranging.dd },
    { name := "diff", trouble := 2, tool := Comparing.diff },
    { name := "dirname", tool := Names.dirname },
    { name := "du", tool := Listing.du },
    { name := "echo", tool := Printing.echo },
    { name := "egrep", trouble := 2, tool := Searching.grep (some .extended) },
    { name := "env", trouble := 125, tool := Starting.env },
    { name := "expand", tool := Cutting.expand },
    { name := "expr", trouble := 2, tool := Formula.expr },
    { name := "factor", tool := Counting.factor },
    { name := "false", tool := Telling.constant false },
    { name := "fgrep", trouble := 2, tool := Searching.grep (some .fixed) },
    { name := "find", tool := Finding.find },
    { name := "fold", tool := Cutting.fold },
    { name := "grep", trouble := 2, tool := Searching.grep none },
    { name := "groups", tool := Telling.groups },
    { name := "head", tool := Ends.head },
    { name := "hostname", tool := Telling.hostname },
    { name := "id", tool := Telling.id },
    { name := "install", tool := Copying.install },
    { name := "join", tool := Sorting.join },
    { name := "kill", tool := Starting.kill },
    { name := "link", tool := Making.link },
    { name := "ln", tool := Making.ln },
    { name := "logname", tool := Telling.logname },
    { name := "ls", trouble := 2, tool := Listing.ls },
    { name := "mawk", trouble := 2, tool := Rules.awk },
    { name := "mkdir", tool := Making.mkdir },
    { name := "mkfifo", tool := Making.mkfifo },
    { name := "mktemp", tool := Making.mktemp },
    { name := "mv", tool := Copying.mv },
    { name := "nice", trouble := 125, tool := Starting.nice },
    { name := "nl", tool := Counting.nl },
    { name := "nohup", trouble := 125, tool := Starting.nohup },
    { name := "nproc", tool := Telling.nproc },
    { name := "od", tool := Encoding.od },
    { name := "paste", tool := Cutting.paste },
    { name := "pathchk", tool := Names.pathchk },
    { name := "printenv", trouble := 2, tool := Starting.printenv },
    { name := "printf", tool := Printing.printf },
    { name := "pwd", tool := Telling.pwd },
    { name := "readlink", tool := Names.readlink },
    { name := "realpath", tool := Names.realpath },
    { name := "rev", tool := Arranging.rev },
    { name := "rm", tool := Copying.rm },
    { name := "rmdir", tool := Making.rmdir },
    { name := "sed", tool := Editing.sed },
    { name := "seq", tool := Counting.seq },
    { name := "setsid", tool := Starting.setsid },
    { name := "shuf", tool := Arranging.shuf },
    { name := "sleep", tool := Starting.sleep },
    { name := "sort", trouble := 2, tool := Sorting.sort },
    { name := "split", tool := Arranging.split },
    { name := "stat", tool := Listing.stat },
    { name := "stdbuf", trouble := 125, tool := Starting.stdbuf },
    { name := "sum", tool := Digest.sum },
    { name := "sync", tool := Telling.sync },
    { name := "tac", tool := Arranging.tac },
    { name := "tail", tool := Ends.tail },
    { name := "tee", tool := Showing.tee },
    { name := "test", trouble := 2, tool := Condition.test false },
    { name := "timeout", trouble := 125, tool := Starting.timeout },
    { name := "touch", tool := Making.touch },
    { name := "tr", tool := Arranging.tr },
    { name := "true", tool := Telling.constant true },
    { name := "truncate", tool := Making.truncate },
    { name := "tsort", tool := Sorting.tsort },
    { name := "tty", trouble := 2, tool := Telling.tty },
    { name := "uname", tool := Telling.uname },
    { name := "unexpand", tool := Cutting.unexpand },
    { name := "uniq", tool := Sorting.uniq },
    { name := "unlink", tool := Making.unlink },
    { name := "users", tool := Telling.users },
    { name := "wc", tool := Counting.wc },
    { name := "which", tool := Telling.which },
    { name := "whoami", tool := Telling.whoami },
    { name := "xargs", tool := Feeding.xargs },
    { name := "yes", tool := Showing.yes }] ++ digests

/-- What a program does with its arguments. -/
def job (name : String) (argv : List Raw) : Job :=
  match all.find? (·.name = name) with
  | some p =>
    let label := argv.head?.getD []
    let label := if ["egrep", "fgrep"].contains name then Raw.ascii "grep" else label
    Tool.job { label, args := argv.drop 1, trouble := p.trouble } p.tool
  | none => .exit 0

/-- The place of the programs. -/
def directory : Place := ["usr", "bin"]

/-- Where programs are looked for. -/
def searchPath : String := "/usr/local/sbin:/usr/local/bin:/usr/sbin:/usr/bin:/sbin:/bin"

end Buildwatch.Machine.Programs
