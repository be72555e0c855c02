import HangulConsole.Text.Ranges

/-!
# The character mapping of domain names

Internationalized domain names are compared after a mapping: most characters
stand for themselves, some are replaced (a capital by its small letter, a wide
form by the plain one), some are dropped and some are not allowed at all.  ASCII
characters other than capital letters stand for themselves here.
-/

namespace HangulConsole
namespace Domain

/-- Characters that are replaced by one character: each is followed by its replacement. -/
def singleRows : List String :=
  [
    "\u00a0 ªa²2³3µμ¹1ºoÀàÁáÂâÃãÄäÅåÆæÇçÈèÉéÊêËëÌìÍíÎîÏïÐð",
    "ÑñÒòÓóÔôÕõÖöØøÙùÚúÛûÜüÝýÞþĀāĂăĄąĆćĈĉĊċČčĎďĐđĒēĔĕ",
    "ĖėĘęĚěĜĝĞğĠġĢģĤĥĦħĨĩĪīĬĭĮįĴĵĶķĹĺĻļĽľŁłŃńŅņŇňŊŋŌō",
    "ŎŏŐőŒœŔŕŖŗŘřŚśŜŝŞşŠšŢţŤťŦŧŨũŪūŬŭŮůŰűŲųŴŵŶŷŸÿŹźŻż",
    "ŽžſsƁɓƂƃƄƅƆɔƇƈƉɖƊɗƋƌƎǝƏəƐɛƑƒƓɠƔɣƖɩƗɨƘƙƜɯƝɲƟɵƠơƢƣ",
    "ƤƥƦʀƧƨƩʃƬƭƮʈƯưƱʊƲʋƳƴƵƶƷʒƸƹƼƽǍǎǏǐǑǒǓǔǕǖǗǘǙǚǛǜǞǟǠǡ",
    "ǢǣǤǥǦǧǨǩǪǫǬǭǮǯǴǵǶƕǷƿǸǹǺǻǼǽǾǿȀȁȂȃȄȅȆȇȈȉȊȋȌȍȎȏȐȑȒȓ",
    "ȔȕȖȗȘșȚțȜȝȞȟȠƞȢȣȤȥȦȧȨȩȪȫȬȭȮȯȰȱȲȳȺⱥȻȼȽƚȾⱦɁɂɃƀɄʉɅʌ",
    "ɆɇɈɉɊɋɌɍɎɏʰhʱɦʲjʳrʴɹʵɻʶʁʷwʸyˠɣˡlˢsˣxˤʕ̀̀́́̓̓ͅιͰͱ",
    "ͲͳʹʹͶͷ;;ͿϳΆά··ΈέΉήΊίΌόΎύΏώΑαΒβΓγΔδΕεΖζΗηΘθΙιΚκΛλ",
    "ΜμΝνΞξΟοΠπΡρΣσΤτΥυΦφΧχΨψΩωΪϊΫϋϏϗϐβϑθϒυϓύϔϋϕφϖπϘϙ",
    "ϚϛϜϝϞϟϠϡϢϣϤϥϦϧϨϩϪϫϬϭϮϯϰκϱρϲσϴθϵεϷϸϹσϺϻϽͻϾͼϿͽЀѐЁё",
    "ЂђЃѓЄєЅѕІіЇїЈјЉљЊњЋћЌќЍѝЎўЏџАаБбВвГгДдЕеЖжЗзИиЙй",
    "КкЛлМмНнОоПпРрСсТтУуФфХхЦцЧчШшЩщЪъЫыЬьЭэЮюЯяѠѡѢѣ",
    "ѤѥѦѧѨѩѪѫѬѭѮѯѰѱѲѳѴѵѶѷѸѹѺѻѼѽѾѿҀҁҊҋҌҍҎҏҐґҒғҔҕҖҗҘҙҚқ",
    "ҜҝҞҟҠҡҢңҤҥҦҧҨҩҪҫҬҭҮүҰұҲҳҴҵҶҷҸҹҺһҼҽҾҿӀӏӁӂӃӄӅӆӇӈӉӊ",
    "ӋӌӍӎӐӑӒӓӔӕӖӗӘәӚӛӜӝӞӟӠӡӢӣӤӥӦӧӨөӪӫӬӭӮӯӰӱӲӳӴӵӶӷӸӹӺӻ",
    "ӼӽӾӿԀԁԂԃԄԅԆԇԈԉԊԋԌԍԎԏԐԑԒԓԔԕԖԗԘԙԚԛԜԝԞԟԠԡԢԣԤԥԦԧԨԩԪԫ",
    "ԬԭԮԯԱաԲբԳգԴդԵեԶզԷէԸըԹթԺժԻիԼլԽխԾծԿկՀհՁձՂղՃճՄմՅյՆն",
    "ՇշՈոՉչՊպՋջՌռՍսՎվՏտՐրՑցՒւՓփՔքՕօՖֆ༌་ႠⴀႡⴁႢⴂႣⴃႤⴄႥⴅႦⴆ",
    "ႧⴇႨⴈႩⴉႪⴊႫⴋႬⴌႭⴍႮⴎႯⴏႰⴐႱⴑႲⴒႳⴓႴⴔႵⴕႶⴖႷⴗႸⴘႹⴙႺⴚႻⴛႼⴜႽⴝႾⴞ",
    "ႿⴟჀⴠჁⴡჂⴢჃⴣჄⴤჅⴥჇⴧჍⴭჼნᏸᏰᏹᏱᏺᏲᏻᏳᏼᏴᏽᏵᲀвᲁдᲂоᲃсᲄтᲅтᲆъᲇѣ",
    "ᲈꙋ\u1c89\u1c8aᲐაᲑბᲒგᲓდᲔეᲕვᲖზᲗთᲘიᲙკᲚლᲛმᲜნᲝოᲞპᲟჟᲠრᲡსᲢტᲣუᲤფᲥქ",
    "ᲦღᲧყᲨშᲩჩᲪცᲫძᲬწᲭჭᲮხᲯჯᲰჰᲱჱᲲჲᲳჳᲴჴᲵჵᲶჶᲷჷᲸჸᲹჹᲺჺᲽჽᲾჾᲿჿ",
    "ᴬaᴭæᴮbᴰdᴱeᴲǝᴳgᴴhᴵiᴶjᴷkᴸlᴹmᴺnᴼoᴽȣᴾpᴿrᵀtᵁuᵂwᵃaᵄɐᵅɑ",
    "ᵆᴂᵇbᵈdᵉeᵊəᵋɛᵌɜᵍgᵏkᵐmᵑŋᵒoᵓɔᵔᴖᵕᴗᵖpᵗtᵘuᵙᴝᵚɯᵛvᵜᴥᵝβᵞγ",
    "ᵟδᵠφᵡχᵢiᵣrᵤuᵥvᵦβᵧγᵨρᵩφᵪχᵸнᶛɒᶜcᶝɕᶞðᶟɜᶠfᶡɟᶢɡᶣɥᶤɨᶥɩ",
    "ᶦɪᶧᵻᶨʝᶩɭᶪᶅᶫʟᶬɱᶭɰᶮɲᶯɳᶰɴᶱɵᶲɸᶳʂᶴʃᶵƫᶶʉᶷʊᶸᴜᶹʋᶺʌᶻzᶼʐᶽʑ",
    "ᶾʒᶿθḀḁḂḃḄḅḆḇḈḉḊḋḌḍḎḏḐḑḒḓḔḕḖḗḘḙḚḛḜḝḞḟḠḡḢḣḤḥḦḧḨḩḪḫ",
    "ḬḭḮḯḰḱḲḳḴḵḶḷḸḹḺḻḼḽḾḿṀṁṂṃṄṅṆṇṈṉṊṋṌṍṎṏṐṑṒṓṔṕṖṗṘṙṚṛ",
    "ṜṝṞṟṠṡṢṣṤṥṦṧṨṩṪṫṬṭṮṯṰṱṲṳṴṵṶṷṸṹṺṻṼṽṾṿẀẁẂẃẄẅẆẇẈẉẊẋ",
    "ẌẍẎẏẐẑẒẓẔẕẛṡẞßẠạẢảẤấẦầẨẩẪẫẬậẮắẰằẲẳẴẵẶặẸẹẺẻẼẽẾếỀề",
    "ỂểỄễỆệỈỉỊịỌọỎỏỐốỒồỔổỖỗỘộỚớỜờỞởỠỡỢợỤụỦủỨứỪừỬửỮữỰự",
    "ỲỳỴỵỶỷỸỹỺỻỼỽỾỿἈἀἉἁἊἂἋἃἌἄἍἅἎἆἏἇἘἐἙἑἚἒἛἓἜἔἝἕἨἠἩἡἪἢ",
    "ἫἣἬἤἭἥἮἦἯἧἸἰἹἱἺἲἻἳἼἴἽἵἾἶἿἷὈὀὉὁὊὂὋὃὌὄὍὅὙὑὛὓὝὕὟὗὨὠ",
    "ὩὡὪὢὫὣὬὤὭὥὮὦὯὧάάέέήήίίόόύύώώᾸᾰᾹᾱᾺὰΆάιιῈὲΈέῊὴΉήΐΐ",
    "ῘῐῙῑῚὶΊίΰΰῨῠῩῡῪὺΎύῬῥ`\x60ῸὸΌόῺὼΏώ",
    "\u2000 \u2001 \u2002 \u2003 \u2004 \u2005 \u2006 \u2007 \u2008 ",
    "\u2009 \u200a ‑‐\u202f \u205f ⁰0ⁱi⁴4⁵5⁶6⁷7⁸8⁹9⁺+⁻−⁼=⁽(⁾)ⁿn₀0₁1₂2₃3₄4",
    "₅5₆6₇7₈8₉9₊+₋−₌=₍(₎)ₐaₑeₒoₓxₔəₕhₖkₗlₘmₙnₚpₛsₜtℂc",
    "ℇɛℊgℋhℌhℍhℎhℏħℐiℑiℒlℓlℕnℙpℚqℛrℜrℝrℤzΩωℨzKkÅåℬbℭc",
    "ℯeℰeℱfℲⅎℳmℴoℵאℶבℷגℸדℹiℼπℽγℾγℿπ⅀∑ⅅdⅆdⅇeⅈiⅉjⅠiⅤvⅩx",
    "ⅬlⅭcⅮdⅯmⅰiⅴvⅹxⅼlⅽcⅾdⅿmↃↄ〈〈〉〉①1②2③3④4⑤5⑥6⑦7⑧8⑨9Ⓐa",
    "ⒷbⒸcⒹdⒺeⒻfⒼgⒽhⒾiⒿjⓀkⓁlⓂmⓃnⓄoⓅpⓆqⓇrⓈsⓉtⓊuⓋvⓌwⓍxⓎy",
    "Ⓩzⓐaⓑbⓒcⓓdⓔeⓕfⓖgⓗhⓘiⓙjⓚkⓛlⓜmⓝnⓞoⓟpⓠqⓡrⓢsⓣtⓤuⓥvⓦw",
    "ⓧxⓨyⓩz⓪0ⰀⰰⰁⰱⰂⰲⰃⰳⰄⰴⰅⰵⰆⰶⰇⰷⰈⰸⰉⰹⰊⰺⰋⰻⰌⰼⰍⰽⰎⰾⰏⰿⰐⱀⰑⱁⰒⱂⰓⱃ",
    "ⰔⱄⰕⱅⰖⱆⰗⱇⰘⱈⰙⱉⰚⱊⰛⱋⰜⱌⰝⱍⰞⱎⰟⱏⰠⱐⰡⱑⰢⱒⰣⱓⰤⱔⰥⱕⰦⱖⰧⱗⰨⱘⰩⱙⰪⱚⰫⱛ",
    "ⰬⱜⰭⱝⰮⱞⰯⱟⱠⱡⱢɫⱣᵽⱤɽⱧⱨⱩⱪⱫⱬⱭɑⱮɱⱯɐⱰɒⱲⱳⱵⱶⱼjⱽvⱾȿⱿɀⲀⲁⲂⲃⲄⲅ",
    "ⲆⲇⲈⲉⲊⲋⲌⲍⲎⲏⲐⲑⲒⲓⲔⲕⲖⲗⲘⲙⲚⲛⲜⲝⲞⲟⲠⲡⲢⲣⲤⲥⲦⲧⲨⲩⲪⲫⲬⲭⲮⲯⲰⲱⲲⲳⲴⲵ",
    "ⲶⲷⲸⲹⲺⲻⲼⲽⲾⲿⳀⳁⳂⳃⳄⳅⳆⳇⳈⳉⳊⳋⳌⳍⳎⳏⳐⳑⳒⳓⳔⳕⳖⳗⳘⳙⳚⳛⳜⳝⳞⳟⳠⳡⳢⳣⳫⳬ",
    "ⳭⳮⳲⳳⵯⵡ⺟母⻳龟⼀一⼁丨⼂丶⼃丿⼄乙⼅亅⼆二⼇亠⼈人⼉儿⼊入⼋八⼌冂⼍冖⼎冫⼏几⼐凵⼑刀⼒力",
    "⼓勹⼔匕⼕匚⼖匸⼗十⼘卜⼙卩⼚厂⼛厶⼜又⼝口⼞囗⼟土⼠士⼡夂⼢夊⼣夕⼤大⼥女⼦子⼧宀⼨寸⼩小⼪尢",
    "⼫尸⼬屮⼭山⼮巛⼯工⼰己⼱巾⼲干⼳幺⼴广⼵廴⼶廾⼷弋⼸弓⼹彐⼺彡⼻彳⼼心⼽戈⼾戶⼿手⽀支⽁攴⽂文",
    "⽃斗⽄斤⽅方⽆无⽇日⽈曰⽉月⽊木⽋欠⽌止⽍歹⽎殳⽏毋⽐比⽑毛⽒氏⽓气⽔水⽕火⽖爪⽗父⽘爻⽙爿⽚片",
    "⽛牙⽜牛⽝犬⽞玄⽟玉⽠瓜⽡瓦⽢甘⽣生⽤用⽥田⽦疋⽧疒⽨癶⽩白⽪皮⽫皿⽬目⽭矛⽮矢⽯石⽰示⽱禸⽲禾",
    "⽳穴⽴立⽵竹⽶米⽷糸⽸缶⽹网⽺羊⽻羽⽼老⽽而⽾耒⽿耳⾀聿⾁肉⾂臣⾃自⾄至⾅臼⾆舌⾇舛⾈舟⾉艮⾊色",
    "⾋艸⾌虍⾍虫⾎血⾏行⾐衣⾑襾⾒見⾓角⾔言⾕谷⾖豆⾗豕⾘豸⾙貝⾚赤⾛走⾜足⾝身⾞車⾟辛⾠辰⾡辵⾢邑",
    "⾣酉⾤釆⾥里⾦金⾧長⾨門⾩阜⾪隶⾫隹⾬雨⾭靑⾮非⾯面⾰革⾱韋⾲韭⾳音⾴頁⾵風⾶飛⾷食⾸首⾹香⾺馬",
    "⾻骨⾼高⾽髟⾾鬥⾿鬯⿀鬲⿁鬼⿂魚⿃鳥⿄鹵⿅鹿⿆麥⿇麻⿈黃⿉黍⿊黑⿋黹⿌黽⿍鼎⿎鼓⿏鼠⿐鼻⿑齊⿒齒",
    "⿓龍⿔龜⿕龠\u3000 。.〶〒〸十〹卄〺卅ㄱᄀㄲᄁㄳᆪㄴᄂㄵᆬㄶᆭㄷᄃㄸᄄㄹᄅㄺᆰㄻᆱㄼᆲㄽᆳㄾᆴㄿᆵ",
    "ㅀᄚㅁᄆㅂᄇㅃᄈㅄᄡㅅᄉㅆᄊㅇᄋㅈᄌㅉᄍㅊᄎㅋᄏㅌᄐㅍᄑㅎᄒㅏᅡㅐᅢㅑᅣㅒᅤㅓᅥㅔᅦㅕᅧㅖᅨㅗᅩ",
    "ㅘᅪㅙᅫㅚᅬㅛᅭㅜᅮㅝᅯㅞᅰㅟᅱㅠᅲㅡᅳㅢᅴㅣᅵㅥᄔㅦᄕㅧᇇㅨᇈㅩᇌㅪᇎㅫᇓㅬᇗㅭᇙㅮᄜㅯᇝㅰᇟ",
    "ㅱᄝㅲᄞㅳᄠㅴᄢㅵᄣㅶᄧㅷᄩㅸᄫㅹᄬㅺᄭㅻᄮㅼᄯㅽᄲㅾᄶㅿᅀㆀᅇㆁᅌㆂᇱㆃᇲㆄᅗㆅᅘㆆᅙㆇᆄㆈᆅ",
    "ㆉᆈㆊᆑㆋᆒㆌᆔㆍᆞㆎᆡ㆒一㆓二㆔三㆕四㆖上㆗中㆘下㆙甲㆚乙㆛丙㆜丁㆝天㆞地㆟人㉄問㉅幼㉆文㉇箏",
    "㉠ᄀ㉡ᄂ㉢ᄃ㉣ᄅ㉤ᄆ㉥ᄇ㉦ᄉ㉧ᄋ㉨ᄌ㉩ᄎ㉪ᄏ㉫ᄐ㉬ᄑ㉭ᄒ㉮가㉯나㉰다㉱라㉲마㉳바㉴사㉵아㉶자㉷차",
    "㉸카㉹타㉺파㉻하㉾우㊀一㊁二㊂三㊃四㊄五㊅六㊆七㊇八㊈九㊉十㊊月㊋火㊌水㊍木㊎金㊏土㊐日㊑株㊒有",
    "㊓社㊔名㊕特㊖財㊗祝㊘労㊙秘㊚男㊛女㊜適㊝優㊞印㊟注㊠項㊡休㊢写㊣正㊤上㊥中㊦下㊧左㊨右㊩医㊪宗",
    "㊫学㊬監㊭企㊮資㊯協㊰夜㋐ア㋑イ㋒ウ㋓エ㋔オ㋕カ㋖キ㋗ク㋘ケ㋙コ㋚サ㋛シ㋜ス㋝セ㋞ソ㋟タ㋠チ㋡ツ",
    "㋢テ㋣ト㋤ナ㋥ニ㋦ヌ㋧ネ㋨ノ㋩ハ㋪ヒ㋫フ㋬ヘ㋭ホ㋮マ㋯ミ㋰ム㋱メ㋲モ㋳ヤ㋴ユ㋵ヨ㋶ラ㋷リ㋸ル㋹レ",
    "㋺ロ㋻ワ㋼ヰ㋽ヱ㋾ヲꙀꙁꙂꙃꙄꙅꙆꙇꙈꙉꙊꙋꙌꙍꙎꙏꙐꙑꙒꙓꙔꙕꙖꙗꙘꙙꙚꙛꙜꙝꙞꙟꙠꙡꙢꙣꙤꙥ",
    "ꙦꙧꙨꙩꙪꙫꙬꙭꚀꚁꚂꚃꚄꚅꚆꚇꚈꚉꚊꚋꚌꚍꚎꚏꚐꚑꚒꚓꚔꚕꚖꚗꚘꚙꚚꚛꚜъꚝьꜢꜣꜤꜥꜦꜧꜨꜩ",
    "ꜪꜫꜬꜭꜮꜯꜲꜳꜴꜵꜶꜷꜸꜹꜺꜻꜼꜽꜾꜿꝀꝁꝂꝃꝄꝅꝆꝇꝈꝉꝊꝋꝌꝍꝎꝏꝐꝑꝒꝓꝔꝕꝖꝗꝘꝙꝚꝛ",
    "ꝜꝝꝞꝟꝠꝡꝢꝣꝤꝥꝦꝧꝨꝩꝪꝫꝬꝭꝮꝯꝰꝯꝹꝺꝻꝼꝽᵹꝾꝿꞀꞁꞂꞃꞄꞅꞆꞇꞋꞌꞍɥꞐꞑꞒꞓꞖꞗ",
    "ꞘꞙꞚꞛꞜꞝꞞꞟꞠꞡꞢꞣꞤꞥꞦꞧꞨꞩꞪɦꞫɜꞬɡꞭɬꞮɪꞰʞꞱʇꞲʝꞳꭓꞴꞵꞶꞷꞸꞹꞺꞻꞼꞽꞾꞿ",
    "ꟀꟁꟂꟃꟄꞔꟅʂꟆᶎꟇꟈꟉꟊ\ua7cbɤ\ua7cc\ua7cd\ua7ce\ua7cfꟐꟑ\ua7d2ꟓ\ua7d4ꟕꟖꟗꟘꟙ",
    "\ua7da\ua7db\ua7dcƛ\ua7f1sꟲcꟳfꟴqꟵꟶꟸħꟹœ",
    "ꭜꜧꭝꬷꭞɫꭟꭒꭩʍꭰᎠꭱᎡꭲᎢꭳᎣꭴᎤꭵᎥꭶᎦꭷᎧꭸᎨꭹᎩꭺᎪꭻᎫꭼᎬꭽᎭꭾᎮꭿᎯꮀᎰꮁᎱꮂᎲ",
    "ꮃᎳꮄᎴꮅᎵꮆᎶꮇᎷꮈᎸꮉᎹꮊᎺꮋᎻꮌᎼꮍᎽꮎᎾꮏᎿꮐᏀꮑᏁꮒᏂꮓᏃꮔᏄꮕᏅꮖᏆꮗᏇꮘᏈꮙᏉꮚᏊ",
    "ꮛᏋꮜᏌꮝᏍꮞᏎꮟᏏꮠᏐꮡᏑꮢᏒꮣᏓꮤᏔꮥᏕꮦᏖꮧᏗꮨᏘꮩᏙꮪᏚꮫᏛꮬᏜꮭᏝꮮᏞꮯᏟꮰᏠꮱᏡꮲᏢ",
    "ꮳᏣꮴᏤꮵᏥꮶᏦꮷᏧꮸᏨꮹᏩꮺᏪꮻᏫꮼᏬꮽᏭꮾᏮꮿᏯ豈豈更更車車賈賈滑滑串串句句龜龜龜龜契契金金",
    "喇喇奈奈懶懶癩癩羅羅蘿蘿螺螺裸裸邏邏樂樂洛洛烙烙珞珞落落酪酪駱駱亂亂卵卵欄欄爛爛蘭蘭鸞鸞嵐嵐濫濫",
    "藍藍襤襤拉拉臘臘蠟蠟廊廊朗朗浪浪狼狼郎郎來來冷冷勞勞擄擄櫓櫓爐爐盧盧老老蘆蘆虜虜路路露露魯魯鷺鷺",
    "碌碌祿祿綠綠菉菉錄錄鹿鹿論論壟壟弄弄籠籠聾聾牢牢磊磊賂賂雷雷壘壘屢屢樓樓淚淚漏漏累累縷縷陋陋勒勒",
    "肋肋凜凜凌凌稜稜綾綾菱菱陵陵讀讀拏拏樂樂諾諾丹丹寧寧怒怒率率異異北北磻磻便便復復不不泌泌數數索索",
    "參參塞塞省省葉葉說說殺殺辰辰沈沈拾拾若若掠掠略略亮亮兩兩凉凉梁梁糧糧良良諒諒量量勵勵呂呂女女廬廬",
    "旅旅濾濾礪礪閭閭驪驪麗麗黎黎力力曆曆歷歷轢轢年年憐憐戀戀撚撚漣漣煉煉璉璉秊秊練練聯聯輦輦蓮蓮連連",
    "鍊鍊列列劣劣咽咽烈烈裂裂說說廉廉念念捻捻殮殮簾簾獵獵令令囹囹寧寧嶺嶺怜怜玲玲瑩瑩羚羚聆聆鈴鈴零零",
    "靈靈領領例例禮禮醴醴隸隸惡惡了了僚僚寮寮尿尿料料樂樂燎燎療療蓼蓼遼遼龍龍暈暈阮阮劉劉杻杻柳柳流流",
    "溜溜琉琉留留硫硫紐紐類類六六戮戮陸陸倫倫崙崙淪淪輪輪律律慄慄栗栗率率隆隆利利吏吏履履易易李李梨梨",
    "泥泥理理痢痢罹罹裏裏裡裡里里離離匿匿溺溺吝吝燐燐璘璘藺藺隣隣鱗鱗麟麟林林淋淋臨臨立立笠笠粒粒狀狀",
    "炙炙識識什什茶茶刺刺切切度度拓拓糖糖宅宅洞洞暴暴輻輻行行降降見見廓廓兀兀嗀嗀塚塚晴晴凞凞猪猪益益",
    "礼礼神神祥祥福福靖靖精精羽羽蘒蘒諸諸逸逸都都飯飯飼飼館館鶴鶴郞郞隷隷侮侮僧僧免免勉勉勤勤卑卑喝喝",
    "嘆嘆器器塀塀墨墨層層屮屮悔悔慨慨憎憎懲懲敏敏既既暑暑梅梅海海渚渚漢漢煮煮爫爫琢琢碑碑社社祉祉祈祈",
    "祐祐祖祖祝祝禍禍禎禎穀穀突突節節練練縉縉繁繁署署者者臭臭艹艹艹艹著著褐褐視視謁謁謹謹賓賓贈贈辶辶",
    "逸逸難難響響頻頻恵恵𤋮𤋮舘舘並並况况全全侀侀充充冀冀勇勇勺勺喝喝啕啕喙喙嗢嗢塚塚墳墳奄奄奔奔婢婢",
    "嬨嬨廒廒廙廙彩彩徭徭惘惘慎慎愈愈憎憎慠慠懲懲戴戴揄揄搜搜摒摒敖敖晴晴朗朗望望杖杖歹歹殺殺流流滛滛",
    "滋滋漢漢瀞瀞煮煮瞧瞧爵爵犯犯猪猪瑱瑱甆甆画画瘝瘝瘟瘟益益盛盛直直睊睊着着磌磌窱窱節節类类絛絛練練",
    "缾缾者者荒荒華華蝹蝹襁襁覆覆視視調調諸諸請請謁謁諾諾諭諭謹謹變變贈贈輸輸遲遲醙醙鉶鉶陼陼難難靖靖",
    "韛韛響響頋頋頻頻鬒鬒龜龜𢡊𢡊𢡄𢡄𣏕𣏕㮝㮝䀘䀘䀹䀹𥉉𥉉𥳐𥳐𧻓𧻓齃齃龎龎ﬠעﬡאﬢדﬣהﬤכﬥלﬦם",
    "ﬧרﬨת﬩+ﭐٱﭑٱﭒٻﭓٻﭔٻﭕٻﭖپﭗپﭘپﭙپﭚڀﭛڀﭜڀﭝڀﭞٺﭟٺﭠٺﭡٺﭢٿﭣٿﭤٿ",
    "ﭥٿﭦٹﭧٹﭨٹﭩٹﭪڤﭫڤﭬڤﭭڤﭮڦﭯڦﭰڦﭱڦﭲڄﭳڄﭴڄﭵڄﭶڃﭷڃﭸڃﭹڃﭺچﭻچﭼچ",
    "ﭽچﭾڇﭿڇﮀڇﮁڇﮂڍﮃڍﮄڌﮅڌﮆڎﮇڎﮈڈﮉڈﮊژﮋژﮌڑﮍڑﮎکﮏکﮐکﮑکﮒگﮓگﮔگ",
    "ﮕگﮖڳﮗڳﮘڳﮙڳﮚڱﮛڱﮜڱﮝڱﮞںﮟںﮠڻﮡڻﮢڻﮣڻﮤۀﮥۀﮦہﮧہﮨہﮩہﮪھﮫھﮬھ",
    "ﮭھﮮےﮯےﮰۓﮱۓﯓڭﯔڭﯕڭﯖڭﯗۇﯘۇﯙۆﯚۆﯛۈﯜۈﯞۋﯟۋﯠۅﯡۅﯢۉﯣۉﯤېﯥېﯦې",
    "ﯧېﯨىﯩىﯼیﯽیﯾیﯿی︐,︑、︓:︔;︕!︖?︗〖︘〗︱—︲–︳_︴_︵(︶)︷\x7b︸\x7d︹〔",
    "︺〕︻【︼】︽《︾》︿〈﹀〉﹁「﹂」﹃『﹄』﹇[﹈]﹍_﹎_﹏_﹐,﹑、﹔;﹕:﹖?﹗!﹘—﹙(",
    "﹚)﹛\x7b﹜\x7d﹝〔﹞〕﹟#﹠&﹡*﹢+﹣-﹤<﹥>﹦=﹨\\﹩$﹪%﹫@ﺀءﺁآﺂآﺃأﺄأﺅؤﺆؤ",
    "ﺇإﺈإﺉئﺊئﺋئﺌئﺍاﺎاﺏبﺐبﺑبﺒبﺓةﺔةﺕتﺖتﺗتﺘتﺙثﺚثﺛثﺜثﺝجﺞج",
    "ﺟجﺠجﺡحﺢحﺣحﺤحﺥخﺦخﺧخﺨخﺩدﺪدﺫذﺬذﺭرﺮرﺯزﺰزﺱسﺲسﺳسﺴسﺵشﺶش",
    "ﺷشﺸشﺹصﺺصﺻصﺼصﺽضﺾضﺿضﻀضﻁطﻂطﻃطﻄطﻅظﻆظﻇظﻈظﻉعﻊعﻋعﻌعﻍغﻎغ",
    "ﻏغﻐغﻑفﻒفﻓفﻔفﻕقﻖقﻗقﻘقﻙكﻚكﻛكﻜكﻝلﻞلﻟلﻠلﻡمﻢمﻣمﻤمﻥنﻦن",
    "ﻧنﻨنﻩهﻪهﻫهﻬهﻭوﻮوﻯىﻰىﻱيﻲيﻳيﻴي！!＂\"＃#＄$％%＆&＇'（(）)＊*",
    "＋+，,－-．.／/０0１1２2３3４4５5６6７7８8９9：:；;＜<＝=＞>？?＠@ＡaＢb",
    "ＣcＤdＥeＦfＧgＨhＩiＪjＫkＬlＭmＮnＯoＰpＱqＲrＳsＴtＵuＶvＷwＸxＹyＺz",
    "［[＼\\］]＾^＿_｀\x60ａaｂbｃcｄdｅeｆfｇgｈhｉiｊjｋkｌlｍmｎnｏoｐpｑqｒr",
    "ｓsｔtｕuｖvｗwｘxｙyｚz｛\x7b｜|｝\x7d～~｟⦅｠⦆｡.｢「｣」､、･・ｦヲｧァｨィｩゥｪェ",
    "ｫォｬャｭュｮョｯッｰーｱアｲイｳウｴエｵオｶカｷキｸクｹケｺコｻサｼシｽスｾセｿソﾀタﾁチﾂツ",
    "ﾃテﾄトﾅナﾆニﾇヌﾈネﾉノﾊハﾋヒﾌフﾍヘﾎホﾏマﾐミﾑムﾒメﾓモﾔヤﾕユﾖヨﾗラﾘリﾙルﾚレ",
    "ﾛロﾜワﾝンﾞ゙ﾟ゚ﾡᄀﾢᄁﾣᆪﾤᄂﾥᆬﾦᆭﾧᄃﾨᄄﾩᄅﾪᆰﾫᆱﾬᆲﾭᆳﾮᆴﾯᆵﾰᄚﾱᄆﾲᄇﾳᄈ",
    "ﾴᄡﾵᄉﾶᄊﾷᄋﾸᄌﾹᄍﾺᄎﾻᄏﾼᄐﾽᄑﾾᄒￂᅡￃᅢￄᅣￅᅤￆᅥￇᅦￊᅧￋᅨￌᅩￍᅪￎᅫￏᅬￒᅭ",
    "ￓᅮￔᅯￕᅰￖᅱￗᅲￚᅳￛᅴￜᅵ￠¢￡£￢¬￤¦￥¥￦₩￨│￩←￪↑￫→￬↓￭■￮○𐐀𐐨𐐁𐐩𐐂𐐪",
    "𐐃𐐫𐐄𐐬𐐅𐐭𐐆𐐮𐐇𐐯𐐈𐐰𐐉𐐱𐐊𐐲𐐋𐐳𐐌𐐴𐐍𐐵𐐎𐐶𐐏𐐷𐐐𐐸𐐑𐐹𐐒𐐺𐐓𐐻𐐔𐐼𐐕𐐽𐐖𐐾𐐗𐐿𐐘𐑀𐐙𐑁𐐚𐑂",
    "𐐛𐑃𐐜𐑄𐐝𐑅𐐞𐑆𐐟𐑇𐐠𐑈𐐡𐑉𐐢𐑊𐐣𐑋𐐤𐑌𐐥𐑍𐐦𐑎𐐧𐑏𐒰𐓘𐒱𐓙𐒲𐓚𐒳𐓛𐒴𐓜𐒵𐓝𐒶𐓞𐒷𐓟𐒸𐓠𐒹𐓡𐒺𐓢",
    "𐒻𐓣𐒼𐓤𐒽𐓥𐒾𐓦𐒿𐓧𐓀𐓨𐓁𐓩𐓂𐓪𐓃𐓫𐓄𐓬𐓅𐓭𐓆𐓮𐓇𐓯𐓈𐓰𐓉𐓱𐓊𐓲𐓋𐓳𐓌𐓴𐓍𐓵𐓎𐓶𐓏𐓷𐓐𐓸𐓑𐓹𐓒𐓺",
    "𐓓𐓻𐕰𐖗𐕱𐖘𐕲𐖙𐕳𐖚𐕴𐖛𐕵𐖜𐕶𐖝𐕷𐖞𐕸𐖟𐕹𐖠𐕺𐖡𐕼𐖣𐕽𐖤𐕾𐖥𐕿𐖦𐖀𐖧𐖁𐖨𐖂𐖩𐖃𐖪𐖄𐖫𐖅𐖬𐖆𐖭𐖇𐖮",
    "𐖈𐖯𐖉𐖰𐖊𐖱𐖌𐖳𐖍𐖴𐖎𐖵𐖏𐖶𐖐𐖷𐖑𐖸𐖒𐖹𐖔𐖻𐖕𐖼𐞁ː𐞂ˑ𐞃æ𐞄ʙ𐞅ɓ𐞇ʣ𐞈ꭦ𐞉ʥ𐞊ʤ𐞋ɖ𐞌ɗ𐞍ᶑ",
    "𐞎ɘ𐞏ɞ𐞐ʩ𐞑ɤ𐞒ɢ𐞓ɠ𐞔ʛ𐞕ħ𐞖ʜ𐞗ɧ𐞘ʄ𐞙ʪ𐞚ʫ𐞛ɬ𐞜𝼄𐞝ꞎ𐞞ɮ𐞟𝼅𐞠ʎ𐞡𝼆𐞢ø𐞣ɶ𐞤ɷ𐞥q",
    "𐞦ɺ𐞧𝼈𐞨ɽ𐞩ɾ𐞪ʀ𐞫ʨ𐞬ʦ𐞭ꭧ𐞮ʧ𐞯ʈ𐞰ⱱ𐞲ʏ𐞳ʡ𐞴ʢ𐞵ʘ𐞶ǀ𐞷ǁ𐞸ǂ𐞹𝼊𐞺𝼞𐲀𐳀𐲁𐳁𐲂𐳂𐲃𐳃",
    "𐲄𐳄𐲅𐳅𐲆𐳆𐲇𐳇𐲈𐳈𐲉𐳉𐲊𐳊𐲋𐳋𐲌𐳌𐲍𐳍𐲎𐳎𐲏𐳏𐲐𐳐𐲑𐳑𐲒𐳒𐲓𐳓𐲔𐳔𐲕𐳕𐲖𐳖𐲗𐳗𐲘𐳘𐲙𐳙𐲚𐳚𐲛𐳛",
    "𐲜𐳜𐲝𐳝𐲞𐳞𐲟𐳟𐲠𐳠𐲡𐳡𐲢𐳢𐲣𐳣𐲤𐳤𐲥𐳥𐲦𐳦𐲧𐳧𐲨𐳨𐲩𐳩𐲪𐳪𐲫𐳫𐲬𐳬𐲭𐳭𐲮𐳮𐲯𐳯𐲰𐳰𐲱𐳱𐲲𐳲𐵐𐵰",
    "𐵑𐵱𐵒𐵲𐵓𐵳𐵔𐵴𐵕𐵵𐵖𐵶𐵗𐵷𐵘𐵸𐵙𐵹𐵚𐵺𐵛𐵻𐵜𐵼𐵝𐵽𐵞𐵾𐵟𐵿𐵠𐶀𐵡𐶁𐵢𐶂𐵣𐶃𐵤𐶄𐵥𐶅𑢠𑣀𑢡𑣁𑢢𑣂",
    "𑢣𑣃𑢤𑣄𑢥𑣅𑢦𑣆𑢧𑣇𑢨𑣈𑢩𑣉𑢪𑣊𑢫𑣋𑢬𑣌𑢭𑣍𑢮𑣎𑢯𑣏𑢰𑣐𑢱𑣑𑢲𑣒𑢳𑣓𑢴𑣔𑢵𑣕𑢶𑣖𑢷𑣗𑢸𑣘𑢹𑣙𑢺𑣚",
    "𑢻𑣛𑢼𑣜𑢽𑣝𑢾𑣞𑢿𑣟𖹀𖹠𖹁𖹡𖹂𖹢𖹃𖹣𖹄𖹤𖹅𖹥𖹆𖹦𖹇𖹧𖹈𖹨𖹉𖹩𖹊𖹪𖹋𖹫𖹌𖹬𖹍𖹭𖹎𖹮𖹏𖹯𖹐𖹰𖹑𖹱𖹒𖹲",
    "𖹓𖹳𖹔𖹴𖹕𖹵𖹖𖹶𖹗𖹷𖹘𖹸𖹙𖹹𖹚𖹺𖹛𖹻𖹜𖹼𖹝𖹽𖹞𖹾𖹟𖹿𖺠𖺻𖺡𖺼𖺢𖺽𖺣𖺾𖺤𖺿𖺥𖻀𖺦𖻁𖺧𖻂𖺨𖻃𖺩𖻄𖺪𖻅",
    "𖺫𖻆𖺬𖻇𖺭𖻈𖺮𖻉𖺯𖻊𖺰𖻋𖺱𖻌𖺲𖻍𖺳𖻎𖺴𖻏𖺵𖻐𖺶𖻑𖺷𖻒𖺸𖻓𜳖a𜳗b𜳘c𜳙d𜳚e𜳛f𜳜g𜳝h𜳞i𜳟j",
    "𜳠k𜳡l𜳢m𜳣n𜳤o𜳥p𜳦q𜳧r𜳨s𜳩t𜳪u𜳫v𜳬w𜳭x𜳮y𜳯z𜳰0𜳱1𜳲2𜳳3𜳴4𜳵5𜳶6𜳷7",
    "𜳸8𜳹9𝐀a𝐁b𝐂c𝐃d𝐄e𝐅f𝐆g𝐇h𝐈i𝐉j𝐊k𝐋l𝐌m𝐍n𝐎o𝐏p𝐐q𝐑r𝐒s𝐓t𝐔u𝐕v",
    "𝐖w𝐗x𝐘y𝐙z𝐚a𝐛b𝐜c𝐝d𝐞e𝐟f𝐠g𝐡h𝐢i𝐣j𝐤k𝐥l𝐦m𝐧n𝐨o𝐩p𝐪q𝐫r𝐬s𝐭t",
    "𝐮u𝐯v𝐰w𝐱x𝐲y𝐳z𝐴a𝐵b𝐶c𝐷d𝐸e𝐹f𝐺g𝐻h𝐼i𝐽j𝐾k𝐿l𝑀m𝑁n𝑂o𝑃p𝑄q𝑅r",
    "𝑆s𝑇t𝑈u𝑉v𝑊w𝑋x𝑌y𝑍z𝑎a𝑏b𝑐c𝑑d𝑒e𝑓f𝑔g𝑖i𝑗j𝑘k𝑙l𝑚m𝑛n𝑜o𝑝p𝑞q",
    "𝑟r𝑠s𝑡t𝑢u𝑣v𝑤w𝑥x𝑦y𝑧z𝑨a𝑩b𝑪c𝑫d𝑬e𝑭f𝑮g𝑯h𝑰i𝑱j𝑲k𝑳l𝑴m𝑵n𝑶o",
    "𝑷p𝑸q𝑹r𝑺s𝑻t𝑼u𝑽v𝑾w𝑿x𝒀y𝒁z𝒂a𝒃b𝒄c𝒅d𝒆e𝒇f𝒈g𝒉h𝒊i𝒋j𝒌k𝒍l𝒎m",
    "𝒏n𝒐o𝒑p𝒒q𝒓r𝒔s𝒕t𝒖u𝒗v𝒘w𝒙x𝒚y𝒛z𝒜a𝒞c𝒟d𝒢g𝒥j𝒦k𝒩n𝒪o𝒫p𝒬q𝒮s",
    "𝒯t𝒰u𝒱v𝒲w𝒳x𝒴y𝒵z𝒶a𝒷b𝒸c𝒹d𝒻f𝒽h𝒾i𝒿j𝓀k𝓁l𝓂m𝓃n𝓅p𝓆q𝓇r𝓈s𝓉t",
    "𝓊u𝓋v𝓌w𝓍x𝓎y𝓏z𝓐a𝓑b𝓒c𝓓d𝓔e𝓕f𝓖g𝓗h𝓘i𝓙j𝓚k𝓛l𝓜m𝓝n𝓞o𝓟p𝓠q𝓡r",
    "𝓢s𝓣t𝓤u𝓥v𝓦w𝓧x𝓨y𝓩z𝓪a𝓫b𝓬c𝓭d𝓮e𝓯f𝓰g𝓱h𝓲i𝓳j𝓴k𝓵l𝓶m𝓷n𝓸o𝓹p",
    "𝓺q𝓻r𝓼s𝓽t𝓾u𝓿v𝔀w𝔁x𝔂y𝔃z𝔄a𝔅b𝔇d𝔈e𝔉f𝔊g𝔍j𝔎k𝔏l𝔐m𝔑n𝔒o𝔓p𝔔q",
    "𝔖s𝔗t𝔘u𝔙v𝔚w𝔛x𝔜y𝔞a𝔟b𝔠c𝔡d𝔢e𝔣f𝔤g𝔥h𝔦i𝔧j𝔨k𝔩l𝔪m𝔫n𝔬o𝔭p𝔮q",
    "𝔯r𝔰s𝔱t𝔲u𝔳v𝔴w𝔵x𝔶y𝔷z𝔸a𝔹b𝔻d𝔼e𝔽f𝔾g𝕀i𝕁j𝕂k𝕃l𝕄m𝕆o𝕊s𝕋t𝕌u",
    "𝕍v𝕎w𝕏x𝕐y𝕒a𝕓b𝕔c𝕕d𝕖e𝕗f𝕘g𝕙h𝕚i𝕛j𝕜k𝕝l𝕞m𝕟n𝕠o𝕡p𝕢q𝕣r𝕤s𝕥t",
    "𝕦u𝕧v𝕨w𝕩x𝕪y𝕫z𝕬a𝕭b𝕮c𝕯d𝕰e𝕱f𝕲g𝕳h𝕴i𝕵j𝕶k𝕷l𝕸m𝕹n𝕺o𝕻p𝕼q𝕽r",
    "𝕾s𝕿t𝖀u𝖁v𝖂w𝖃x𝖄y𝖅z𝖆a𝖇b𝖈c𝖉d𝖊e𝖋f𝖌g𝖍h𝖎i𝖏j𝖐k𝖑l𝖒m𝖓n𝖔o𝖕p",
    "𝖖q𝖗r𝖘s𝖙t𝖚u𝖛v𝖜w𝖝x𝖞y𝖟z𝖠a𝖡b𝖢c𝖣d𝖤e𝖥f𝖦g𝖧h𝖨i𝖩j𝖪k𝖫l𝖬m𝖭n",
    "𝖮o𝖯p𝖰q𝖱r𝖲s𝖳t𝖴u𝖵v𝖶w𝖷x𝖸y𝖹z𝖺a𝖻b𝖼c𝖽d𝖾e𝖿f𝗀g𝗁h𝗂i𝗃j𝗄k𝗅l",
    "𝗆m𝗇n𝗈o𝗉p𝗊q𝗋r𝗌s𝗍t𝗎u𝗏v𝗐w𝗑x𝗒y𝗓z𝗔a𝗕b𝗖c𝗗d𝗘e𝗙f𝗚g𝗛h𝗜i𝗝j",
    "𝗞k𝗟l𝗠m𝗡n𝗢o𝗣p𝗤q𝗥r𝗦s𝗧t𝗨u𝗩v𝗪w𝗫x𝗬y𝗭z𝗮a𝗯b𝗰c𝗱d𝗲e𝗳f𝗴g𝗵h",
    "𝗶i𝗷j𝗸k𝗹l𝗺m𝗻n𝗼o𝗽p𝗾q𝗿r𝘀s𝘁t𝘂u𝘃v𝘄w𝘅x𝘆y𝘇z𝘈a𝘉b𝘊c𝘋d𝘌e𝘍f",
    "𝘎g𝘏h𝘐i𝘑j𝘒k𝘓l𝘔m𝘕n𝘖o𝘗p𝘘q𝘙r𝘚s𝘛t𝘜u𝘝v𝘞w𝘟x𝘠y𝘡z𝘢a𝘣b𝘤c𝘥d",
    "𝘦e𝘧f𝘨g𝘩h𝘪i𝘫j𝘬k𝘭l𝘮m𝘯n𝘰o𝘱p𝘲q𝘳r𝘴s𝘵t𝘶u𝘷v𝘸w𝘹x𝘺y𝘻z𝘼a𝘽b",
    "𝘾c𝘿d𝙀e𝙁f𝙂g𝙃h𝙄i𝙅j𝙆k𝙇l𝙈m𝙉n𝙊o𝙋p𝙌q𝙍r𝙎s𝙏t𝙐u𝙑v𝙒w𝙓x𝙔y𝙕z",
    "𝙖a𝙗b𝙘c𝙙d𝙚e𝙛f𝙜g𝙝h𝙞i𝙟j𝙠k𝙡l𝙢m𝙣n𝙤o𝙥p𝙦q𝙧r𝙨s𝙩t𝙪u𝙫v𝙬w𝙭x",
    "𝙮y𝙯z𝙰a𝙱b𝙲c𝙳d𝙴e𝙵f𝙶g𝙷h𝙸i𝙹j𝙺k𝙻l𝙼m𝙽n𝙾o𝙿p𝚀q𝚁r𝚂s𝚃t𝚄u𝚅v",
    "𝚆w𝚇x𝚈y𝚉z𝚊a𝚋b𝚌c𝚍d𝚎e𝚏f𝚐g𝚑h𝚒i𝚓j𝚔k𝚕l𝚖m𝚗n𝚘o𝚙p𝚚q𝚛r𝚜s𝚝t",
    "𝚞u𝚟v𝚠w𝚡x𝚢y𝚣z𝚤ı𝚥ȷ𝚨α𝚩β𝚪γ𝚫δ𝚬ε𝚭ζ𝚮η𝚯θ𝚰ι𝚱κ𝚲λ𝚳μ𝚴ν𝚵ξ𝚶ο𝚷π",
    "𝚸ρ𝚹θ𝚺σ𝚻τ𝚼υ𝚽φ𝚾χ𝚿ψ𝛀ω𝛁∇𝛂α𝛃β𝛄γ𝛅δ𝛆ε𝛇ζ𝛈η𝛉θ𝛊ι𝛋κ𝛌λ𝛍μ𝛎ν𝛏ξ",
    "𝛐ο𝛑π𝛒ρ𝛓σ𝛔σ𝛕τ𝛖υ𝛗φ𝛘χ𝛙ψ𝛚ω𝛛∂𝛜ε𝛝θ𝛞κ𝛟φ𝛠ρ𝛡π𝛢α𝛣β𝛤γ𝛥δ𝛦ε𝛧ζ",
    "𝛨η𝛩θ𝛪ι𝛫κ𝛬λ𝛭μ𝛮ν𝛯ξ𝛰ο𝛱π𝛲ρ𝛳θ𝛴σ𝛵τ𝛶υ𝛷φ𝛸χ𝛹ψ𝛺ω𝛻∇𝛼α𝛽β𝛾γ𝛿δ",
    "𝜀ε𝜁ζ𝜂η𝜃θ𝜄ι𝜅κ𝜆λ𝜇μ𝜈ν𝜉ξ𝜊ο𝜋π𝜌ρ𝜍σ𝜎σ𝜏τ𝜐υ𝜑φ𝜒χ𝜓ψ𝜔ω𝜕∂𝜖ε𝜗θ",
    "𝜘κ𝜙φ𝜚ρ𝜛π𝜜α𝜝β𝜞γ𝜟δ𝜠ε𝜡ζ𝜢η𝜣θ𝜤ι𝜥κ𝜦λ𝜧μ𝜨ν𝜩ξ𝜪ο𝜫π𝜬ρ𝜭θ𝜮σ𝜯τ",
    "𝜰υ𝜱φ𝜲χ𝜳ψ𝜴ω𝜵∇𝜶α𝜷β𝜸γ𝜹δ𝜺ε𝜻ζ𝜼η𝜽θ𝜾ι𝜿κ𝝀λ𝝁μ𝝂ν𝝃ξ𝝄ο𝝅π𝝆ρ𝝇σ",
    "𝝈σ𝝉τ𝝊υ𝝋φ𝝌χ𝝍ψ𝝎ω𝝏∂𝝐ε𝝑θ𝝒κ𝝓φ𝝔ρ𝝕π𝝖α𝝗β𝝘γ𝝙δ𝝚ε𝝛ζ𝝜η𝝝θ𝝞ι𝝟κ",
    "𝝠λ𝝡μ𝝢ν𝝣ξ𝝤ο𝝥π𝝦ρ𝝧θ𝝨σ𝝩τ𝝪υ𝝫φ𝝬χ𝝭ψ𝝮ω𝝯∇𝝰α𝝱β𝝲γ𝝳δ𝝴ε𝝵ζ𝝶η𝝷θ",
    "𝝸ι𝝹κ𝝺λ𝝻μ𝝼ν𝝽ξ𝝾ο𝝿π𝞀ρ𝞁σ𝞂σ𝞃τ𝞄υ𝞅φ𝞆χ𝞇ψ𝞈ω𝞉∂𝞊ε𝞋θ𝞌κ𝞍φ𝞎ρ𝞏π",
    "𝞐α𝞑β𝞒γ𝞓δ𝞔ε𝞕ζ𝞖η𝞗θ𝞘ι𝞙κ𝞚λ𝞛μ𝞜ν𝞝ξ𝞞ο𝞟π𝞠ρ𝞡θ𝞢σ𝞣τ𝞤υ𝞥φ𝞦χ𝞧ψ",
    "𝞨ω𝞩∇𝞪α𝞫β𝞬γ𝞭δ𝞮ε𝞯ζ𝞰η𝞱θ𝞲ι𝞳κ𝞴λ𝞵μ𝞶ν𝞷ξ𝞸ο𝞹π𝞺ρ𝞻σ𝞼σ𝞽τ𝞾υ𝞿φ",
    "𝟀χ𝟁ψ𝟂ω𝟃∂𝟄ε𝟅θ𝟆κ𝟇φ𝟈ρ𝟉π𝟊ϝ𝟋ϝ𝟎0𝟏1𝟐2𝟑3𝟒4𝟓5𝟔6𝟕7𝟖8𝟗9𝟘0𝟙1",
    "𝟚2𝟛3𝟜4𝟝5𝟞6𝟟7𝟠8𝟡9𝟢0𝟣1𝟤2𝟥3𝟦4𝟧5𝟨6𝟩7𝟪8𝟫9𝟬0𝟭1𝟮2𝟯3𝟰4𝟱5",
    "𝟲6𝟳7𝟴8𝟵9𝟶0𝟷1𝟸2𝟹3𝟺4𝟻5𝟼6𝟽7𝟾8𝟿9𞀰а𞀱б𞀲в𞀳г𞀴д𞀵е𞀶ж𞀷з𞀸и𞀹к",
    "𞀺л𞀻м𞀼о𞀽п𞀾р𞀿с𞁀т𞁁у𞁂ф𞁃х𞁄ц𞁅ч𞁆ш𞁇ы𞁈э𞁉ю𞁊ꚉ𞁋ә𞁌і𞁍ј𞁎ө𞁏ү𞁐ӏ𞁑а",
    "𞁒б𞁓в𞁔г𞁕д𞁖е𞁗ж𞁘з𞁙и𞁚к𞁛л𞁜о𞁝п𞁞с𞁟у𞁠ф𞁡х𞁢ц𞁣ч𞁤ш𞁥ъ𞁦ы𞁧ґ𞁨і𞁩ѕ",
    "𞁪џ𞁫ҫ𞁬ꙑ𞁭ұ𞤀𞤢𞤁𞤣𞤂𞤤𞤃𞤥𞤄𞤦𞤅𞤧𞤆𞤨𞤇𞤩𞤈𞤪𞤉𞤫𞤊𞤬𞤋𞤭𞤌𞤮𞤍𞤯𞤎𞤰𞤏𞤱𞤐𞤲𞤑𞤳𞤒𞤴𞤓𞤵",
    "𞤔𞤶𞤕𞤷𞤖𞤸𞤗𞤹𞤘𞤺𞤙𞤻𞤚𞤼𞤛𞤽𞤜𞤾𞤝𞤿𞤞𞥀𞤟𞥁𞤠𞥂𞤡𞥃𞸀ا𞸁ب𞸂ج𞸃د𞸅و𞸆ز𞸇ح𞸈ط𞸉ي𞸊ك",
    "𞸋ل𞸌م𞸍ن𞸎س𞸏ع𞸐ف𞸑ص𞸒ق𞸓ر𞸔ش𞸕ت𞸖ث𞸗خ𞸘ذ𞸙ض𞸚ظ𞸛غ𞸜ٮ𞸝ں𞸞ڡ𞸟ٯ𞸡ب𞸢ج𞸤ه",
    "𞸧ح𞸩ي𞸪ك𞸫ل𞸬م𞸭ن𞸮س𞸯ع𞸰ف𞸱ص𞸲ق𞸴ش𞸵ت𞸶ث𞸷خ𞸹ض𞸻غ𞹂ج𞹇ح𞹉ي𞹋ل𞹍ن𞹎س𞹏ع",
    "𞹑ص𞹒ق𞹔ش𞹗خ𞹙ض𞹛غ𞹝ں𞹟ٯ𞹡ب𞹢ج𞹤ه𞹧ح𞹨ط𞹩ي𞹪ك𞹬م𞹭ن𞹮س𞹯ع𞹰ف𞹱ص𞹲ق𞹴ش𞹵ت",
    "𞹶ث𞹷خ𞹹ض𞹺ظ𞹻غ𞹼ٮ𞹾ڡ𞺀ا𞺁ب𞺂ج𞺃د𞺄ه𞺅و𞺆ز𞺇ح𞺈ط𞺉ي𞺋ل𞺌م𞺍ن𞺎س𞺏ع𞺐ف𞺑ص",
    "𞺒ق𞺓ر𞺔ش𞺕ت𞺖ث𞺗خ𞺘ذ𞺙ض𞺚ظ𞺛غ𞺡ب𞺢ج𞺣د𞺥و𞺦ز𞺧ح𞺨ط𞺩ي𞺫ل𞺬م𞺭ن𞺮س𞺯ع𞺰ف",
    "𞺱ص𞺲ق𞺳ر𞺴ش𞺵ت𞺶ث𞺷خ𞺸ذ𞺹ض𞺺ظ𞺻غ🄫c🄬r🄰a🄱b🄲c🄳d🄴e🄵f🄶g🄷h🄸i🄹j🄺k",
    "🄻l🄼m🄽n🄾o🄿p🅀q🅁r🅂s🅃t🅄u🅅v🅆w🅇x🅈y🅉z🈂サ🈐手🈑字🈒双🈓デ🈔二🈕多🈖解🈗天",
    "🈘交🈙映🈚無🈛料🈜前🈝後🈞再🈟新🈠初🈡終🈢生🈣販🈤声🈥吹🈦演🈧投🈨捕🈩一🈪三🈫遊🈬左🈭中🈮右🈯指",
    "🈰走🈱打🈲禁🈳空🈴合🈵満🈶有🈷月🈸申🈹割🈺営🈻配🉐得🉑可🯰0🯱1🯲2🯳3🯴4🯵5🯶6🯷7🯸8🯹9",
    "丽丽丸丸乁乁𠄢𠄢你你侮侮侻侻倂倂偺偺備備僧僧像像㒞㒞𠘺𠘺免免兔兔兤兤具具𠔜𠔜㒹㒹內內再再𠕋𠕋冗冗",
    "冤冤仌仌冬冬况况𩇟𩇟凵凵刃刃㓟㓟刻刻剆剆割割剷剷㔕㔕勇勇勉勉勤勤勺勺包包匆匆北北卉卉卑卑博博即即",
    "卽卽卿卿卿卿卿卿𠨬𠨬灰灰及及叟叟𠭣𠭣叫叫叱叱吆吆咞咞吸吸呈呈周周咢咢哶哶唐唐啓啓啣啣善善善善喙喙",
    "喫喫喳喳嗂嗂圖圖嘆嘆圗圗噑噑噴噴切切壮壮城城埴埴堍堍型型堲堲報報墬墬𡓤𡓤売売壷壷夆夆多多夢夢奢奢",
    "𡚨𡚨𡛪𡛪姬姬娛娛娧娧姘姘婦婦㛮㛮㛼㛼嬈嬈嬾嬾嬾嬾𡧈𡧈寃寃寘寘寧寧寳寳𡬘𡬘寿寿将将当当尢尢㞁㞁屠屠",
    "屮屮峀峀岍岍𡷤𡷤嵃嵃𡷦𡷦嵮嵮嵫嵫嵼嵼巡巡巢巢㠯㠯巽巽帨帨帽帽幩幩㡢㡢𢆃𢆃㡼㡼庰庰庳庳庶庶廊廊𪎒𪎒",
    "廾廾𢌱𢌱𢌱𢌱舁舁弢弢弢弢㣇㣇𣊸𣊸𦇚𦇚形形彫彫㣣㣣徚徚忍忍志志忹忹悁悁㤺㤺㤜㤜悔悔𢛔𢛔惇惇慈慈慌慌",
    "慎慎慌慌慺慺憎憎憲憲憤憤憯憯懞懞懲懲懶懶成成戛戛扝扝抱抱拔拔捐捐𢬌𢬌挽挽拼拼捨捨掃掃揤揤𢯱𢯱搢搢",
    "揅揅掩掩㨮㨮摩摩摾摾撝撝摷摷㩬㩬敏敏敬敬𣀊𣀊旣旣書書晉晉㬙㬙暑暑㬈㬈㫤㫤冒冒冕冕最最暜暜肭肭䏙䏙",
    "朗朗望望朡朡杞杞杓杓𣏃𣏃㭉㭉柺柺枅枅桒桒梅梅𣑭𣑭梎梎栟栟椔椔㮝㮝楂楂榣榣槪槪檨檨𣚣𣚣櫛櫛㰘㰘次次",
    "𣢧𣢧歔歔㱎㱎歲歲殟殟殺殺殻殻𣪍𣪍𡴋𡴋𣫺𣫺汎汎𣲼𣲼沿沿泍泍汧汧洖洖派派海海流流浩浩浸浸涅涅𣴞𣴞洴洴",
    "港港湮湮㴳㴳滋滋滇滇𣻑𣻑淹淹潮潮𣽞𣽞𣾎𣾎濆濆瀹瀹瀞瀞瀛瀛㶖㶖灊灊災災灷灷炭炭𠔥𠔥煅煅𤉣𤉣熜熜𤎫𤎫",
    "爨爨爵爵牐牐𤘈𤘈犀犀犕犕𤜵𤜵𤠔𤠔獺獺王王㺬㺬玥玥㺸㺸㺸㺸瑇瑇瑜瑜瑱瑱璅璅瓊瓊㼛㼛甤甤𤰶𤰶甾甾𤲒𤲒",
    "異異𢆟𢆟瘐瘐𤾡𤾡𤾸𤾸𥁄𥁄㿼㿼䀈䀈直直𥃳𥃳𥃲𥃲𥄙𥄙𥄳𥄳眞眞真真真真睊睊䀹䀹瞋瞋䁆䁆䂖䂖𥐝𥐝硎硎碌碌",
    "磌磌䃣䃣𥘦𥘦祖祖𥚚𥚚𥛅𥛅福福秫秫䄯䄯穀穀穊穊穏穏𥥼𥥼𥪧𥪧𥪧𥪧竮竮䈂䈂𥮫𥮫篆篆築築䈧䈧𥲀𥲀糒糒䊠䊠",
    "糨糨糣糣紀紀𥾆𥾆絣絣䌁䌁緇緇縂縂繅繅䌴䌴𦈨𦈨𦉇𦉇䍙䍙𦋙𦋙罺罺𦌾𦌾羕羕翺翺者者𦓚𦓚𦔣𦔣聠聠𦖨𦖨聰聰",
    "𣍟𣍟䏕䏕育育脃脃䐋䐋脾脾媵媵𦞧𦞧𦞵𦞵𣎓𣎓𣎜𣎜舁舁舄舄辞辞䑫䑫芑芑芋芋芝芝劳劳花花芳芳芽芽苦苦𦬼𦬼",
    "若若茝茝荣荣莭莭茣茣莽莽菧菧著著荓荓菊菊菌菌菜菜𦰶𦰶𦵫𦵫𦳕𦳕䔫䔫蓱蓱蓳蓳蔖蔖𧏊𧏊蕤蕤𦼬𦼬䕝䕝䕡䕡",
    "𦾱𦾱𧃒𧃒䕫䕫虐虐虜虜虧虧虩虩蚩蚩蚈蚈蜎蜎蛢蛢蝹蝹蜨蜨蝫蝫螆螆䗗䗗蟡蟡蠁蠁䗹䗹衠衠衣衣𧙧𧙧裗裗裞裞",
    "䘵䘵裺裺㒻㒻𧢮𧢮𧥦𧥦䚾䚾䛇䛇誠誠諭諭變變豕豕𧲨𧲨貫貫賁賁贛贛起起𧼯𧼯𠠄𠠄跋跋趼趼跰跰𠣞𠣞軔軔輸輸",
    "𨗒𨗒𨗭𨗭邔邔郱郱鄑鄑𨜮𨜮鄛鄛鈸鈸鋗鋗鋘鋘鉼鉼鏹鏹鐕鐕𨯺𨯺開開䦕䦕閷閷𨵷𨵷䧦䧦雃雃嶲嶲霣霣𩅅𩅅𩈚𩈚",
    "䩮䩮䩶䩶韠韠𩐊𩐊䪲䪲𩒖𩒖頋頋頋頋頩頩𩖶𩖶飢飢䬳䬳餩餩馧馧駂駂駾駾䯎䯎𩬰𩬰鬒鬒鱀鱀鳽鳽䳎䳎䳭䳭鵧鵧",
    "𪃎𪃎䳸䳸𪄅𪄅𪈎𪈎𪊑𪊑麻麻䵖䵖黹黹黾黾鼅鼅鼏鼏鼖鼖鼻鼻𪘀𪘀"
  ]

/-- Characters that are replaced by several characters: each row starts with the character. -/
def multipleRows : List String :=
  [
    "¨ ̈", "¯ ̄", "´ ́", "¸ ̧", "¼1⁄4", "½1⁄2",
    "¾3⁄4", "İi̇", "Ĳij", "ĳij", "Ŀl·", "ŀl·",
    "ŉʼn", "Ǆdž", "ǅdž", "ǆdž", "Ǉlj", "ǈlj",
    "ǉlj", "Ǌnj", "ǋnj", "ǌnj", "Ǳdz", "ǲdz",
    "ǳdz", "˘ ̆", "˙ ̇", "˚ ̊", "˛ ̨", "˜ ̃",
    "˝ ̋", "̈́̈́", "ͺ ι", "΄ ́", "΅ ̈́", "ևեւ",
    "ٵاٴ", "ٶوٴ", "ٷۇٴ", "ٸيٴ", "क़क़", "ख़ख़",
    "ग़ग़", "ज़ज़", "ड़ड़", "ढ़ढ़", "फ़फ़", "य़य़",
    "ড়ড়", "ঢ়ঢ়", "য়য়", "ਲ਼ਲ਼", "ਸ਼ਸ਼", "ਖ਼ਖ਼",
    "ਗ਼ਗ਼", "ਜ਼ਜ਼", "ਫ਼ਫ਼", "ଡ଼ଡ଼", "ଢ଼ଢ଼", "ำํา",
    "ຳໍາ", "ໜຫນ", "ໝຫມ", "གྷགྷ", "ཌྷཌྷ", "དྷདྷ",
    "བྷབྷ", "ཛྷཛྷ", "ཀྵཀྵ", "ཱཱིི", "ཱཱུུ", "ྲྀྲྀ",
    "ཷྲཱྀ", "ླྀླྀ", "ཹླཱྀ", "ཱཱྀྀ", "ྒྷྒྷ", "ྜྷྜྷ",
    "ྡྷྡྷ", "ྦྷྦྷ", "ྫྷྫྷ", "ྐྵྐྵ", "ẚaʾ", "ᾀἀι",
    "ᾁἁι", "ᾂἂι", "ᾃἃι", "ᾄἄι", "ᾅἅι", "ᾆἆι",
    "ᾇἇι", "ᾈἀι", "ᾉἁι", "ᾊἂι", "ᾋἃι", "ᾌἄι",
    "ᾍἅι", "ᾎἆι", "ᾏἇι", "ᾐἠι", "ᾑἡι", "ᾒἢι",
    "ᾓἣι", "ᾔἤι", "ᾕἥι", "ᾖἦι", "ᾗἧι", "ᾘἠι",
    "ᾙἡι", "ᾚἢι", "ᾛἣι", "ᾜἤι", "ᾝἥι", "ᾞἦι",
    "ᾟἧι", "ᾠὠι", "ᾡὡι", "ᾢὢι", "ᾣὣι", "ᾤὤι",
    "ᾥὥι", "ᾦὦι", "ᾧὧι", "ᾨὠι", "ᾩὡι", "ᾪὢι",
    "ᾫὣι", "ᾬὤι", "ᾭὥι", "ᾮὦι", "ᾯὧι", "ᾲὰι",
    "ᾳαι", "ᾴάι", "ᾷᾶι", "ᾼαι", "᾽ ̓", "᾿ ̓",
    "῀ ͂", "῁ ̈͂", "ῂὴι", "ῃηι", "ῄήι", "ῇῆι",
    "ῌηι", "῍ ̓̀", "῎ ̓́", "῏ ̓͂", "῝ ̔̀", "῞ ̔́",
    "῟ ̔͂", "῭ ̈̀", "΅ ̈́", "ῲὼι", "ῳωι", "ῴώι",
    "ῷῶι", "ῼωι", "´ ́", "῾ ̔", "‗ ̳", "″′′",
    "‴′′′", "‶‵‵", "‷‵‵‵", "‼!!", "‾ ̅", "⁇??",
    "⁈?!", "⁉!?", "⁗′′′′", "₨rs", "℀a/c", "℁a/s",
    "℃°c", "℅c/o", "℆c/u", "℉°f", "№no", "℠sm",
    "℡tel", "™tm", "℻fax", "⅐1⁄7", "⅑1⁄9", "⅒1⁄10",
    "⅓1⁄3", "⅔2⁄3", "⅕1⁄5", "⅖2⁄5", "⅗3⁄5", "⅘4⁄5",
    "⅙1⁄6", "⅚5⁄6", "⅛1⁄8", "⅜3⁄8", "⅝5⁄8", "⅞7⁄8",
    "⅟1⁄", "Ⅱii", "Ⅲiii", "Ⅳiv", "Ⅵvi", "Ⅶvii",
    "Ⅷviii", "Ⅸix", "Ⅺxi", "Ⅻxii", "ⅱii", "ⅲiii",
    "ⅳiv", "ⅵvi", "ⅶvii", "ⅷviii", "ⅸix", "ⅺxi",
    "ⅻxii", "↉0⁄3", "∬∫∫", "∭∫∫∫", "∯∮∮", "∰∮∮∮",
    "⑩10", "⑪11", "⑫12", "⑬13", "⑭14", "⑮15",
    "⑯16", "⑰17", "⑱18", "⑲19", "⑳20", "⑴(1)",
    "⑵(2)", "⑶(3)", "⑷(4)", "⑸(5)", "⑹(6)", "⑺(7)",
    "⑻(8)", "⑼(9)", "⑽(10)", "⑾(11)", "⑿(12)", "⒀(13)",
    "⒁(14)", "⒂(15)", "⒃(16)", "⒄(17)", "⒅(18)", "⒆(19)",
    "⒇(20)", "⒜(a)", "⒝(b)", "⒞(c)", "⒟(d)", "⒠(e)",
    "⒡(f)", "⒢(g)", "⒣(h)", "⒤(i)", "⒥(j)", "⒦(k)",
    "⒧(l)", "⒨(m)", "⒩(n)", "⒪(o)", "⒫(p)", "⒬(q)",
    "⒭(r)", "⒮(s)", "⒯(t)", "⒰(u)", "⒱(v)", "⒲(w)",
    "⒳(x)", "⒴(y)", "⒵(z)", "⨌∫∫∫∫", "⩴::=", "⩵==",
    "⩶===", "⫝̸⫝̸", "゛ ゙", "゜ ゚", "ゟより", "ヿコト",
    "㈀(ᄀ)", "㈁(ᄂ)", "㈂(ᄃ)", "㈃(ᄅ)", "㈄(ᄆ)", "㈅(ᄇ)",
    "㈆(ᄉ)", "㈇(ᄋ)", "㈈(ᄌ)", "㈉(ᄎ)", "㈊(ᄏ)", "㈋(ᄐ)",
    "㈌(ᄑ)", "㈍(ᄒ)", "㈎(가)", "㈏(나)", "㈐(다)", "㈑(라)",
    "㈒(마)", "㈓(바)", "㈔(사)", "㈕(아)", "㈖(자)", "㈗(차)",
    "㈘(카)", "㈙(타)", "㈚(파)", "㈛(하)", "㈜(주)", "㈝(오전)",
    "㈞(오후)", "㈠(一)", "㈡(二)", "㈢(三)", "㈣(四)", "㈤(五)",
    "㈥(六)", "㈦(七)", "㈧(八)", "㈨(九)", "㈩(十)", "㈪(月)",
    "㈫(火)", "㈬(水)", "㈭(木)", "㈮(金)", "㈯(土)", "㈰(日)",
    "㈱(株)", "㈲(有)", "㈳(社)", "㈴(名)", "㈵(特)", "㈶(財)",
    "㈷(祝)", "㈸(労)", "㈹(代)", "㈺(呼)", "㈻(学)", "㈼(監)",
    "㈽(企)", "㈾(資)", "㈿(協)", "㉀(祭)", "㉁(休)", "㉂(自)",
    "㉃(至)", "㉐pte", "㉑21", "㉒22", "㉓23", "㉔24",
    "㉕25", "㉖26", "㉗27", "㉘28", "㉙29", "㉚30",
    "㉛31", "㉜32", "㉝33", "㉞34", "㉟35", "㉼참고",
    "㉽주의", "㊱36", "㊲37", "㊳38", "㊴39", "㊵40",
    "㊶41", "㊷42", "㊸43", "㊹44", "㊺45", "㊻46",
    "㊼47", "㊽48", "㊾49", "㊿50", "㋀1月", "㋁2月",
    "㋂3月", "㋃4月", "㋄5月", "㋅6月", "㋆7月", "㋇8月",
    "㋈9月", "㋉10月", "㋊11月", "㋋12月", "㋌hg", "㋍erg",
    "㋎ev", "㋏ltd", "㋿令和", "㌀アパート", "㌁アルファ", "㌂アンペア",
    "㌃アール", "㌄イニング", "㌅インチ", "㌆ウォン", "㌇エスクード", "㌈エーカー",
    "㌉オンス", "㌊オーム", "㌋カイリ", "㌌カラット", "㌍カロリー", "㌎ガロン",
    "㌏ガンマ", "㌐ギガ", "㌑ギニー", "㌒キュリー", "㌓ギルダー", "㌔キロ",
    "㌕キログラム", "㌖キロメートル", "㌗キロワット", "㌘グラム", "㌙グラムトン", "㌚クルゼイロ",
    "㌛クローネ", "㌜ケース", "㌝コルナ", "㌞コーポ", "㌟サイクル", "㌠サンチーム",
    "㌡シリング", "㌢センチ", "㌣セント", "㌤ダース", "㌥デシ", "㌦ドル",
    "㌧トン", "㌨ナノ", "㌩ノット", "㌪ハイツ", "㌫パーセント", "㌬パーツ",
    "㌭バーレル", "㌮ピアストル", "㌯ピクル", "㌰ピコ", "㌱ビル", "㌲ファラッド",
    "㌳フィート", "㌴ブッシェル", "㌵フラン", "㌶ヘクタール", "㌷ペソ", "㌸ペニヒ",
    "㌹ヘルツ", "㌺ペンス", "㌻ページ", "㌼ベータ", "㌽ポイント", "㌾ボルト",
    "㌿ホン", "㍀ポンド", "㍁ホール", "㍂ホーン", "㍃マイクロ", "㍄マイル",
    "㍅マッハ", "㍆マルク", "㍇マンション", "㍈ミクロン", "㍉ミリ", "㍊ミリバール",
    "㍋メガ", "㍌メガトン", "㍍メートル", "㍎ヤード", "㍏ヤール", "㍐ユアン",
    "㍑リットル", "㍒リラ", "㍓ルピー", "㍔ルーブル", "㍕レム", "㍖レントゲン",
    "㍗ワット", "㍘0点", "㍙1点", "㍚2点", "㍛3点", "㍜4点",
    "㍝5点", "㍞6点", "㍟7点", "㍠8点", "㍡9点", "㍢10点",
    "㍣11点", "㍤12点", "㍥13点", "㍦14点", "㍧15点", "㍨16点",
    "㍩17点", "㍪18点", "㍫19点", "㍬20点", "㍭21点", "㍮22点",
    "㍯23点", "㍰24点", "㍱hpa", "㍲da", "㍳au", "㍴bar",
    "㍵ov", "㍶pc", "㍷dm", "㍸dm2", "㍹dm3", "㍺iu",
    "㍻平成", "㍼昭和", "㍽大正", "㍾明治", "㍿株式会社", "㎀pa",
    "㎁na", "㎂μa", "㎃ma", "㎄ka", "㎅kb", "㎆mb",
    "㎇gb", "㎈cal", "㎉kcal", "㎊pf", "㎋nf", "㎌μf",
    "㎍μg", "㎎mg", "㎏kg", "㎐hz", "㎑khz", "㎒mhz",
    "㎓ghz", "㎔thz", "㎕μl", "㎖ml", "㎗dl", "㎘kl",
    "㎙fm", "㎚nm", "㎛μm", "㎜mm", "㎝cm", "㎞km",
    "㎟mm2", "㎠cm2", "㎡m2", "㎢km2", "㎣mm3", "㎤cm3",
    "㎥m3", "㎦km3", "㎧m∕s", "㎨m∕s2", "㎩pa", "㎪kpa",
    "㎫mpa", "㎬gpa", "㎭rad", "㎮rad∕s", "㎯rad∕s2", "㎰ps",
    "㎱ns", "㎲μs", "㎳ms", "㎴pv", "㎵nv", "㎶μv",
    "㎷mv", "㎸kv", "㎹mv", "㎺pw", "㎻nw", "㎼μw",
    "㎽mw", "㎾kw", "㎿mw", "㏀kω", "㏁mω", "㏃bq",
    "㏄cc", "㏅cd", "㏆c∕kg", "㏈db", "㏉gy", "㏊ha",
    "㏋hp", "㏌in", "㏍kk", "㏎km", "㏏kt", "㏐lm",
    "㏑ln", "㏒log", "㏓lx", "㏔mb", "㏕mil", "㏖mol",
    "㏗ph", "㏙ppm", "㏚pr", "㏛sr", "㏜sv", "㏝wb",
    "㏞v∕m", "㏟a∕m", "㏠1日", "㏡2日", "㏢3日", "㏣4日",
    "㏤5日", "㏥6日", "㏦7日", "㏧8日", "㏨9日", "㏩10日",
    "㏪11日", "㏫12日", "㏬13日", "㏭14日", "㏮15日", "㏯16日",
    "㏰17日", "㏱18日", "㏲19日", "㏳20日", "㏴21日", "㏵22日",
    "㏶23日", "㏷24日", "㏸25日", "㏹26日", "㏺27日", "㏻28日",
    "㏼29日", "㏽30日", "㏾31日", "㏿gal", "ﬀff", "ﬁfi",
    "ﬂfl", "ﬃffi", "ﬄffl", "ﬅst", "ﬆst", "ﬓմն",
    "ﬔմե", "ﬕմի", "ﬖվն", "ﬗմխ", "יִיִ", "ײַײַ",
    "שׁשׁ", "שׂשׂ", "שּׁשּׁ", "שּׂשּׂ", "אַאַ", "אָאָ",
    "אּאּ", "בּבּ", "גּגּ", "דּדּ", "הּהּ", "וּוּ",
    "זּזּ", "טּטּ", "יּיּ", "ךּךּ", "כּכּ", "לּלּ",
    "מּמּ", "נּנּ", "סּסּ", "ףּףּ", "פּפּ", "צּצּ",
    "קּקּ", "רּרּ", "שּשּ", "תּתּ", "וֹוֹ", "בֿבֿ",
    "כֿכֿ", "פֿפֿ", "ﭏאל", "ﯝۇٴ", "ﯪئا", "ﯫئا",
    "ﯬئە", "ﯭئە", "ﯮئو", "ﯯئو", "ﯰئۇ", "ﯱئۇ",
    "ﯲئۆ", "ﯳئۆ", "ﯴئۈ", "ﯵئۈ", "ﯶئې", "ﯷئې",
    "ﯸئې", "ﯹئى", "ﯺئى", "ﯻئى", "ﰀئج", "ﰁئح",
    "ﰂئم", "ﰃئى", "ﰄئي", "ﰅبج", "ﰆبح", "ﰇبخ",
    "ﰈبم", "ﰉبى", "ﰊبي", "ﰋتج", "ﰌتح", "ﰍتخ",
    "ﰎتم", "ﰏتى", "ﰐتي", "ﰑثج", "ﰒثم", "ﰓثى",
    "ﰔثي", "ﰕجح", "ﰖجم", "ﰗحج", "ﰘحم", "ﰙخج",
    "ﰚخح", "ﰛخم", "ﰜسج", "ﰝسح", "ﰞسخ", "ﰟسم",
    "ﰠصح", "ﰡصم", "ﰢضج", "ﰣضح", "ﰤضخ", "ﰥضم",
    "ﰦطح", "ﰧطم", "ﰨظم", "ﰩعج", "ﰪعم", "ﰫغج",
    "ﰬغم", "ﰭفج", "ﰮفح", "ﰯفخ", "ﰰفم", "ﰱفى",
    "ﰲفي", "ﰳقح", "ﰴقم", "ﰵقى", "ﰶقي", "ﰷكا",
    "ﰸكج", "ﰹكح", "ﰺكخ", "ﰻكل", "ﰼكم", "ﰽكى",
    "ﰾكي", "ﰿلج", "ﱀلح", "ﱁلخ", "ﱂلم", "ﱃلى",
    "ﱄلي", "ﱅمج", "ﱆمح", "ﱇمخ", "ﱈمم", "ﱉمى",
    "ﱊمي", "ﱋنج", "ﱌنح", "ﱍنخ", "ﱎنم", "ﱏنى",
    "ﱐني", "ﱑهج", "ﱒهم", "ﱓهى", "ﱔهي", "ﱕيج",
    "ﱖيح", "ﱗيخ", "ﱘيم", "ﱙيى", "ﱚيي", "ﱛذٰ",
    "ﱜرٰ", "ﱝىٰ", "ﱞ ٌّ", "ﱟ ٍّ", "ﱠ َّ", "ﱡ ُّ",
    "ﱢ ِّ", "ﱣ ّٰ", "ﱤئر", "ﱥئز", "ﱦئم", "ﱧئن",
    "ﱨئى", "ﱩئي", "ﱪبر", "ﱫبز", "ﱬبم", "ﱭبن",
    "ﱮبى", "ﱯبي", "ﱰتر", "ﱱتز", "ﱲتم", "ﱳتن",
    "ﱴتى", "ﱵتي", "ﱶثر", "ﱷثز", "ﱸثم", "ﱹثن",
    "ﱺثى", "ﱻثي", "ﱼفى", "ﱽفي", "ﱾقى", "ﱿقي",
    "ﲀكا", "ﲁكل", "ﲂكم", "ﲃكى", "ﲄكي", "ﲅلم",
    "ﲆلى", "ﲇلي", "ﲈما", "ﲉمم", "ﲊنر", "ﲋنز",
    "ﲌنم", "ﲍنن", "ﲎنى", "ﲏني", "ﲐىٰ", "ﲑير",
    "ﲒيز", "ﲓيم", "ﲔين", "ﲕيى", "ﲖيي", "ﲗئج",
    "ﲘئح", "ﲙئخ", "ﲚئم", "ﲛئه", "ﲜبج", "ﲝبح",
    "ﲞبخ", "ﲟبم", "ﲠبه", "ﲡتج", "ﲢتح", "ﲣتخ",
    "ﲤتم", "ﲥته", "ﲦثم", "ﲧجح", "ﲨجم", "ﲩحج",
    "ﲪحم", "ﲫخج", "ﲬخم", "ﲭسج", "ﲮسح", "ﲯسخ",
    "ﲰسم", "ﲱصح", "ﲲصخ", "ﲳصم", "ﲴضج", "ﲵضح",
    "ﲶضخ", "ﲷضم", "ﲸطح", "ﲹظم", "ﲺعج", "ﲻعم",
    "ﲼغج", "ﲽغم", "ﲾفج", "ﲿفح", "ﳀفخ", "ﳁفم",
    "ﳂقح", "ﳃقم", "ﳄكج", "ﳅكح", "ﳆكخ", "ﳇكل",
    "ﳈكم", "ﳉلج", "ﳊلح", "ﳋلخ", "ﳌلم", "ﳍله",
    "ﳎمج", "ﳏمح", "ﳐمخ", "ﳑمم", "ﳒنج", "ﳓنح",
    "ﳔنخ", "ﳕنم", "ﳖنه", "ﳗهج", "ﳘهم", "ﳙهٰ",
    "ﳚيج", "ﳛيح", "ﳜيخ", "ﳝيم", "ﳞيه", "ﳟئم",
    "ﳠئه", "ﳡبم", "ﳢبه", "ﳣتم", "ﳤته", "ﳥثم",
    "ﳦثه", "ﳧسم", "ﳨسه", "ﳩشم", "ﳪشه", "ﳫكل",
    "ﳬكم", "ﳭلم", "ﳮنم", "ﳯنه", "ﳰيم", "ﳱيه",
    "ﳲـَّ", "ﳳـُّ", "ﳴـِّ", "ﳵطى", "ﳶطي", "ﳷعى",
    "ﳸعي", "ﳹغى", "ﳺغي", "ﳻسى", "ﳼسي", "ﳽشى",
    "ﳾشي", "ﳿحى", "ﴀحي", "ﴁجى", "ﴂجي", "ﴃخى",
    "ﴄخي", "ﴅصى", "ﴆصي", "ﴇضى", "ﴈضي", "ﴉشج",
    "ﴊشح", "ﴋشخ", "ﴌشم", "ﴍشر", "ﴎسر", "ﴏصر",
    "ﴐضر", "ﴑطى", "ﴒطي", "ﴓعى", "ﴔعي", "ﴕغى",
    "ﴖغي", "ﴗسى", "ﴘسي", "ﴙشى", "ﴚشي", "ﴛحى",
    "ﴜحي", "ﴝجى", "ﴞجي", "ﴟخى", "ﴠخي", "ﴡصى",
    "ﴢصي", "ﴣضى", "ﴤضي", "ﴥشج", "ﴦشح", "ﴧشخ",
    "ﴨشم", "ﴩشر", "ﴪسر", "ﴫصر", "ﴬضر", "ﴭشج",
    "ﴮشح", "ﴯشخ", "ﴰشم", "ﴱسه", "ﴲشه", "ﴳطم",
    "ﴴسج", "ﴵسح", "ﴶسخ", "ﴷشج", "ﴸشح", "ﴹشخ",
    "ﴺطم", "ﴻظم", "ﴼاً", "ﴽاً", "ﵐتجم", "ﵑتحج",
    "ﵒتحج", "ﵓتحم", "ﵔتخم", "ﵕتمج", "ﵖتمح", "ﵗتمخ",
    "ﵘجمح", "ﵙجمح", "ﵚحمي", "ﵛحمى", "ﵜسحج", "ﵝسجح",
    "ﵞسجى", "ﵟسمح", "ﵠسمح", "ﵡسمج", "ﵢسمم", "ﵣسمم",
    "ﵤصحح", "ﵥصحح", "ﵦصمم", "ﵧشحم", "ﵨشحم", "ﵩشجي",
    "ﵪشمخ", "ﵫشمخ", "ﵬشمم", "ﵭشمم", "ﵮضحى", "ﵯضخم",
    "ﵰضخم", "ﵱطمح", "ﵲطمح", "ﵳطمم", "ﵴطمي", "ﵵعجم",
    "ﵶعمم", "ﵷعمم", "ﵸعمى", "ﵹغمم", "ﵺغمي", "ﵻغمى",
    "ﵼفخم", "ﵽفخم", "ﵾقمح", "ﵿقمم", "ﶀلحم", "ﶁلحي",
    "ﶂلحى", "ﶃلجج", "ﶄلجج", "ﶅلخم", "ﶆلخم", "ﶇلمح",
    "ﶈلمح", "ﶉمحج", "ﶊمحم", "ﶋمحي", "ﶌمجح", "ﶍمجم",
    "ﶎمخج", "ﶏمخم", "ﶒمجخ", "ﶓهمج", "ﶔهمم", "ﶕنحم",
    "ﶖنحى", "ﶗنجم", "ﶘنجم", "ﶙنجى", "ﶚنمي", "ﶛنمى",
    "ﶜيمم", "ﶝيمم", "ﶞبخي", "ﶟتجي", "ﶠتجى", "ﶡتخي",
    "ﶢتخى", "ﶣتمي", "ﶤتمى", "ﶥجمي", "ﶦجحى", "ﶧجمى",
    "ﶨسخى", "ﶩصحي", "ﶪشحي", "ﶫضحي", "ﶬلجي", "ﶭلمي",
    "ﶮيحي", "ﶯيجي", "ﶰيمي", "ﶱممي", "ﶲقمي", "ﶳنحي",
    "ﶴقمح", "ﶵلحم", "ﶶعمي", "ﶷكمي", "ﶸنجح", "ﶹمخي",
    "ﶺلجم", "ﶻكمم", "ﶼلجم", "ﶽنجح", "ﶾجحي", "ﶿحجي",
    "ﷀمجي", "ﷁفمي", "ﷂبحي", "ﷃكمم", "ﷄعجم", "ﷅصمم",
    "ﷆسخي", "ﷇنجي", "ﷰصلے", "ﷱقلے", "ﷲالله", "ﷳاكبر",
    "ﷴمحمد", "ﷵصلعم", "ﷶرسول", "ﷷعليه", "ﷸوسلم", "ﷹصلى",
    "ﷺصلى الله عليه وسلم", "ﷻجل جلاله", "﷼ریال", "﹉ ̅", "﹊ ̅", "﹋ ̅",
    "﹌ ̅", "ﹰ ً", "ﹱـً", "ﹲ ٌ", "ﹴ ٍ", "ﹶ َ",
    "ﹷـَ", "ﹸ ُ", "ﹹـُ", "ﹺ ِ", "ﹻـِ", "ﹼ ّ",
    "ﹽـّ", "ﹾ ْ", "ﹿـْ", "ﻵلآ", "ﻶلآ", "ﻷلأ",
    "ﻸلأ", "ﻹلإ", "ﻺلإ", "ﻻلا", "ﻼلا", "￣ ̄",
    "𝅗𝅥𝅗𝅥", "𝅘𝅥𝅘𝅥", "𝅘𝅥𝅮𝅘𝅥𝅮", "𝅘𝅥𝅯𝅘𝅥𝅯", "𝅘𝅥𝅰𝅘𝅥𝅰", "𝅘𝅥𝅱𝅘𝅥𝅱",
    "𝅘𝅥𝅲𝅘𝅥𝅲", "𝆹𝅥𝆹𝅥", "𝆺𝅥𝆺𝅥", "𝆹𝅥𝅮𝆹𝅥𝅮", "𝆺𝅥𝅮𝆺𝅥𝅮", "𝆹𝅥𝅯𝆹𝅥𝅯",
    "𝆺𝅥𝅯𝆺𝅥𝅯", "🄁0,", "🄂1,", "🄃2,", "🄄3,", "🄅4,",
    "🄆5,", "🄇6,", "🄈7,", "🄉8,", "🄊9,", "🄐(a)",
    "🄑(b)", "🄒(c)", "🄓(d)", "🄔(e)", "🄕(f)", "🄖(g)",
    "🄗(h)", "🄘(i)", "🄙(j)", "🄚(k)", "🄛(l)", "🄜(m)",
    "🄝(n)", "🄞(o)", "🄟(p)", "🄠(q)", "🄡(r)", "🄢(s)",
    "🄣(t)", "🄤(u)", "🄥(v)", "🄦(w)", "🄧(x)", "🄨(y)",
    "🄩(z)", "🄪〔s〕", "🄭cd", "🄮wz", "🅊hv", "🅋mv",
    "🅌sd", "🅍ss", "🅎ppv", "🅏wc", "🅪mc", "🅫md",
    "🅬mr", "🆐dj", "🈀ほか", "🈁ココ", "🉀〔本〕", "🉁〔三〕",
    "🉂〔二〕", "🉃〔安〕", "🉄〔点〕", "🉅〔打〕", "🉆〔盗〕", "🉇〔勝〕",
    "🉈〔敗〕"
  ]

def droppedRanges : List (Nat × Nat) :=
  [ (0xad, 0xad), (0x34f, 0x34f), (0x115f, 0x1160), (0x17b4, 0x17b5), (0x180b, 0x180f),
    (0x200b, 0x200b), (0x2060, 0x2064), (0x206a, 0x206f), (0x3164, 0x3164), (0xfe00, 0xfe0f),
    (0xfeff, 0xfeff), (0xffa0, 0xffa0), (0x1bca0, 0x1bca3), (0x1d173, 0x1d17a),
    (0xe0100, 0xe01ef)]

def refusedRanges : List (Nat × Nat) :=
  [ (0x80, 0x9f), (0x378, 0x379), (0x380, 0x383), (0x38b, 0x38b), (0x38d, 0x38d),
    (0x3a2, 0x3a2), (0x530, 0x530), (0x557, 0x558), (0x58b, 0x58c), (0x590, 0x590),
    (0x5c8, 0x5cf), (0x5eb, 0x5ee), (0x5f5, 0x605), (0x61c, 0x61c), (0x6dd, 0x6dd),
    (0x70e, 0x70f), (0x74b, 0x74c), (0x7b2, 0x7bf), (0x7fb, 0x7fc), (0x82e, 0x82f),
    (0x83f, 0x83f), (0x85c, 0x85d), (0x85f, 0x85f), (0x86b, 0x86f), (0x890, 0x896),
    (0x8e2, 0x8e2), (0x984, 0x984), (0x98d, 0x98e), (0x991, 0x992), (0x9a9, 0x9a9),
    (0x9b1, 0x9b1), (0x9b3, 0x9b5), (0x9ba, 0x9bb), (0x9c5, 0x9c6), (0x9c9, 0x9ca),
    (0x9cf, 0x9d6), (0x9d8, 0x9db), (0x9de, 0x9de), (0x9e4, 0x9e5), (0x9ff, 0xa00),
    (0xa04, 0xa04), (0xa0b, 0xa0e), (0xa11, 0xa12), (0xa29, 0xa29), (0xa31, 0xa31),
    (0xa34, 0xa34), (0xa37, 0xa37), (0xa3a, 0xa3b), (0xa3d, 0xa3d), (0xa43, 0xa46),
    (0xa49, 0xa4a), (0xa4e, 0xa50), (0xa52, 0xa58), (0xa5d, 0xa5d), (0xa5f, 0xa65),
    (0xa77, 0xa80), (0xa84, 0xa84), (0xa8e, 0xa8e), (0xa92, 0xa92), (0xaa9, 0xaa9),
    (0xab1, 0xab1), (0xab4, 0xab4), (0xaba, 0xabb), (0xac6, 0xac6), (0xaca, 0xaca),
    (0xace, 0xacf), (0xad1, 0xadf), (0xae4, 0xae5), (0xaf2, 0xaf8), (0xb00, 0xb00),
    (0xb04, 0xb04), (0xb0d, 0xb0e), (0xb11, 0xb12), (0xb29, 0xb29), (0xb31, 0xb31),
    (0xb34, 0xb34), (0xb3a, 0xb3b), (0xb45, 0xb46), (0xb49, 0xb4a), (0xb4e, 0xb54),
    (0xb58, 0xb5b), (0xb5e, 0xb5e), (0xb64, 0xb65), (0xb78, 0xb81), (0xb84, 0xb84),
    (0xb8b, 0xb8d), (0xb91, 0xb91), (0xb96, 0xb98), (0xb9b, 0xb9b), (0xb9d, 0xb9d),
    (0xba0, 0xba2), (0xba5, 0xba7), (0xbab, 0xbad), (0xbba, 0xbbd), (0xbc3, 0xbc5),
    (0xbc9, 0xbc9), (0xbce, 0xbcf), (0xbd1, 0xbd6), (0xbd8, 0xbe5), (0xbfb, 0xbff),
    (0xc0d, 0xc0d), (0xc11, 0xc11), (0xc29, 0xc29), (0xc3a, 0xc3b), (0xc45, 0xc45),
    (0xc49, 0xc49), (0xc4e, 0xc54), (0xc57, 0xc57), (0xc5b, 0xc5b), (0xc5e, 0xc5f),
    (0xc64, 0xc65), (0xc70, 0xc76), (0xc8d, 0xc8d), (0xc91, 0xc91), (0xca9, 0xca9),
    (0xcb4, 0xcb4), (0xcba, 0xcbb), (0xcc5, 0xcc5), (0xcc9, 0xcc9), (0xcce, 0xcd4),
    (0xcd7, 0xcdb), (0xcdf, 0xcdf), (0xce4, 0xce5), (0xcf0, 0xcf0), (0xcf4, 0xcff),
    (0xd0d, 0xd0d), (0xd11, 0xd11), (0xd45, 0xd45), (0xd49, 0xd49), (0xd50, 0xd53),
    (0xd64, 0xd65), (0xd80, 0xd80), (0xd84, 0xd84), (0xd97, 0xd99), (0xdb2, 0xdb2),
    (0xdbc, 0xdbc), (0xdbe, 0xdbf), (0xdc7, 0xdc9), (0xdcb, 0xdce), (0xdd5, 0xdd5),
    (0xdd7, 0xdd7), (0xde0, 0xde5), (0xdf0, 0xdf1), (0xdf5, 0xe00), (0xe3b, 0xe3e),
    (0xe5c, 0xe80), (0xe83, 0xe83), (0xe85, 0xe85), (0xe8b, 0xe8b), (0xea4, 0xea4),
    (0xea6, 0xea6), (0xebe, 0xebf), (0xec5, 0xec5), (0xec7, 0xec7), (0xecf, 0xecf),
    (0xeda, 0xedb), (0xee0, 0xeff), (0xf48, 0xf48), (0xf6d, 0xf70), (0xf98, 0xf98),
    (0xfbd, 0xfbd), (0xfcd, 0xfcd), (0xfdb, 0xfff), (0x10c6, 0x10c6), (0x10c8, 0x10cc),
    (0x10ce, 0x10cf), (0x1249, 0x1249), (0x124e, 0x124f), (0x1257, 0x1257), (0x1259, 0x1259),
    (0x125e, 0x125f), (0x1289, 0x1289), (0x128e, 0x128f), (0x12b1, 0x12b1), (0x12b6, 0x12b7),
    (0x12bf, 0x12bf), (0x12c1, 0x12c1), (0x12c6, 0x12c7), (0x12d7, 0x12d7), (0x1311, 0x1311),
    (0x1316, 0x1317), (0x135b, 0x135c), (0x137d, 0x137f), (0x139a, 0x139f), (0x13f6, 0x13f7),
    (0x13fe, 0x13ff), (0x1680, 0x1680), (0x169d, 0x169f), (0x16f9, 0x16ff), (0x1716, 0x171e),
    (0x1737, 0x173f), (0x1754, 0x175f), (0x176d, 0x176d), (0x1771, 0x1771), (0x1774, 0x177f),
    (0x17de, 0x17df), (0x17ea, 0x17ef), (0x17fa, 0x17ff), (0x181a, 0x181f), (0x1879, 0x187f),
    (0x18ab, 0x18af), (0x18f6, 0x18ff), (0x191f, 0x191f), (0x192c, 0x192f), (0x193c, 0x193f),
    (0x1941, 0x1943), (0x196e, 0x196f), (0x1975, 0x197f), (0x19ac, 0x19af), (0x19ca, 0x19cf),
    (0x19db, 0x19dd), (0x1a1c, 0x1a1d), (0x1a5f, 0x1a5f), (0x1a7d, 0x1a7e), (0x1a8a, 0x1a8f),
    (0x1a9a, 0x1a9f), (0x1aae, 0x1aaf), (0x1ade, 0x1adf), (0x1aec, 0x1aff), (0x1b4d, 0x1b4d),
    (0x1bf4, 0x1bfb), (0x1c38, 0x1c3a), (0x1c4a, 0x1c4c), (0x1c8b, 0x1c8f), (0x1cbb, 0x1cbc),
    (0x1cc8, 0x1ccf), (0x1cfb, 0x1cff), (0x1f16, 0x1f17), (0x1f1e, 0x1f1f), (0x1f46, 0x1f47),
    (0x1f4e, 0x1f4f), (0x1f58, 0x1f58), (0x1f5a, 0x1f5a), (0x1f5c, 0x1f5c), (0x1f5e, 0x1f5e),
    (0x1f7e, 0x1f7f), (0x1fb5, 0x1fb5), (0x1fc5, 0x1fc5), (0x1fd4, 0x1fd5), (0x1fdc, 0x1fdc),
    (0x1ff0, 0x1ff1), (0x1ff5, 0x1ff5), (0x1fff, 0x1fff), (0x200e, 0x200f), (0x2024, 0x2026),
    (0x2028, 0x202e), (0x2065, 0x2069), (0x2072, 0x2073), (0x208f, 0x208f), (0x209d, 0x209f),
    (0x20c2, 0x20cf), (0x20f1, 0x20ff), (0x218c, 0x218f), (0x242a, 0x243f), (0x244b, 0x245f),
    (0x2488, 0x249b), (0x2b74, 0x2b75), (0x2cf4, 0x2cf8), (0x2d26, 0x2d26), (0x2d28, 0x2d2c),
    (0x2d2e, 0x2d2f), (0x2d68, 0x2d6e), (0x2d71, 0x2d7e), (0x2d97, 0x2d9f), (0x2da7, 0x2da7),
    (0x2daf, 0x2daf), (0x2db7, 0x2db7), (0x2dbf, 0x2dbf), (0x2dc7, 0x2dc7), (0x2dcf, 0x2dcf),
    (0x2dd7, 0x2dd7), (0x2ddf, 0x2ddf), (0x2e5e, 0x2e7f), (0x2e9a, 0x2e9a), (0x2ef4, 0x2eff),
    (0x2fd6, 0x2fff), (0x3040, 0x3040), (0x3097, 0x3098), (0x3100, 0x3104), (0x3130, 0x3130),
    (0x318f, 0x318f), (0x31e6, 0x31ef), (0x321f, 0x321f), (0x33c2, 0x33c2), (0x33c7, 0x33c7),
    (0x33d8, 0x33d8), (0xa48d, 0xa48f), (0xa4c7, 0xa4cf), (0xa62c, 0xa63f), (0xa6f8, 0xa6ff),
    (0xa7dd, 0xa7f0), (0xa82d, 0xa82f), (0xa83a, 0xa83f), (0xa878, 0xa87f), (0xa8c6, 0xa8cd),
    (0xa8da, 0xa8df), (0xa954, 0xa95e), (0xa97d, 0xa97f), (0xa9ce, 0xa9ce), (0xa9da, 0xa9dd),
    (0xa9ff, 0xa9ff), (0xaa37, 0xaa3f), (0xaa4e, 0xaa4f), (0xaa5a, 0xaa5b), (0xaac3, 0xaada),
    (0xaaf7, 0xab00), (0xab07, 0xab08), (0xab0f, 0xab10), (0xab17, 0xab1f), (0xab27, 0xab27),
    (0xab2f, 0xab2f), (0xab6c, 0xab6f), (0xabee, 0xabef), (0xabfa, 0xabff), (0xd7a4, 0xd7af),
    (0xd7c7, 0xd7ca), (0xd7fc, 0xd7ff), (0xe000, 0xf8ff), (0xfa6e, 0xfa6f), (0xfada, 0xfaff),
    (0xfb07, 0xfb12), (0xfb18, 0xfb1c), (0xfb37, 0xfb37), (0xfb3d, 0xfb3d), (0xfb3f, 0xfb3f),
    (0xfb42, 0xfb42), (0xfb45, 0xfb45), (0xfdd0, 0xfdef), (0xfe12, 0xfe12), (0xfe19, 0xfe1f),
    (0xfe30, 0xfe30), (0xfe52, 0xfe53), (0xfe67, 0xfe67), (0xfe6c, 0xfe6f), (0xfe75, 0xfe75),
    (0xfefd, 0xfefe), (0xff00, 0xff00), (0xffbf, 0xffc1), (0xffc8, 0xffc9), (0xffd0, 0xffd1),
    (0xffd8, 0xffd9), (0xffdd, 0xffdf), (0xffe7, 0xffe7), (0xffef, 0xffff), (0x1000c, 0x1000c),
    (0x10027, 0x10027), (0x1003b, 0x1003b), (0x1003e, 0x1003e), (0x1004e, 0x1004f),
    (0x1005e, 0x1007f), (0x100fb, 0x100ff), (0x10103, 0x10106), (0x10134, 0x10136),
    (0x1018f, 0x1018f), (0x1019d, 0x1019f), (0x101a1, 0x101cf), (0x101fe, 0x1027f),
    (0x1029d, 0x1029f), (0x102d1, 0x102df), (0x102fc, 0x102ff), (0x10324, 0x1032c),
    (0x1034b, 0x1034f), (0x1037b, 0x1037f), (0x1039e, 0x1039e), (0x103c4, 0x103c7),
    (0x103d6, 0x103ff), (0x1049e, 0x1049f), (0x104aa, 0x104af), (0x104d4, 0x104d7),
    (0x104fc, 0x104ff), (0x10528, 0x1052f), (0x10564, 0x1056e), (0x1057b, 0x1057b),
    (0x1058b, 0x1058b), (0x10593, 0x10593), (0x10596, 0x10596), (0x105a2, 0x105a2),
    (0x105b2, 0x105b2), (0x105ba, 0x105ba), (0x105bd, 0x105bf), (0x105f4, 0x105ff),
    (0x10737, 0x1073f), (0x10756, 0x1075f), (0x10768, 0x1077f), (0x10786, 0x10786),
    (0x107b1, 0x107b1), (0x107bb, 0x107ff), (0x10806, 0x10807), (0x10809, 0x10809),
    (0x10836, 0x10836), (0x10839, 0x1083b), (0x1083d, 0x1083e), (0x10856, 0x10856),
    (0x1089f, 0x108a6), (0x108b0, 0x108df), (0x108f3, 0x108f3), (0x108f6, 0x108fa),
    (0x1091c, 0x1091e), (0x1093a, 0x1093e), (0x1095a, 0x1097f), (0x109b8, 0x109bb),
    (0x109d0, 0x109d1), (0x10a04, 0x10a04), (0x10a07, 0x10a0b), (0x10a14, 0x10a14),
    (0x10a18, 0x10a18), (0x10a36, 0x10a37), (0x10a3b, 0x10a3e), (0x10a49, 0x10a4f),
    (0x10a59, 0x10a5f), (0x10aa0, 0x10abf), (0x10ae7, 0x10aea), (0x10af7, 0x10aff),
    (0x10b36, 0x10b38), (0x10b56, 0x10b57), (0x10b73, 0x10b77), (0x10b92, 0x10b98),
    (0x10b9d, 0x10ba8), (0x10bb0, 0x10bff), (0x10c49, 0x10c7f), (0x10cb3, 0x10cbf),
    (0x10cf3, 0x10cf9), (0x10d28, 0x10d2f), (0x10d3a, 0x10d3f), (0x10d66, 0x10d68),
    (0x10d86, 0x10d8d), (0x10d90, 0x10e5f), (0x10e7f, 0x10e7f), (0x10eaa, 0x10eaa),
    (0x10eae, 0x10eaf), (0x10eb2, 0x10ec1), (0x10ec8, 0x10ecf), (0x10ed9, 0x10ef9),
    (0x10f28, 0x10f2f), (0x10f5a, 0x10f6f), (0x10f8a, 0x10faf), (0x10fcc, 0x10fdf),
    (0x10ff7, 0x10fff), (0x1104e, 0x11051), (0x11076, 0x1107e), (0x110bd, 0x110bd),
    (0x110c3, 0x110cf), (0x110e9, 0x110ef), (0x110fa, 0x110ff), (0x11135, 0x11135),
    (0x11148, 0x1114f), (0x11177, 0x1117f), (0x111e0, 0x111e0), (0x111f5, 0x111ff),
    (0x11212, 0x11212), (0x11242, 0x1127f), (0x11287, 0x11287), (0x11289, 0x11289),
    (0x1128e, 0x1128e), (0x1129e, 0x1129e), (0x112aa, 0x112af), (0x112eb, 0x112ef),
    (0x112fa, 0x112ff), (0x11304, 0x11304), (0x1130d, 0x1130e), (0x11311, 0x11312),
    (0x11329, 0x11329), (0x11331, 0x11331), (0x11334, 0x11334), (0x1133a, 0x1133a),
    (0x11345, 0x11346), (0x11349, 0x1134a), (0x1134e, 0x1134f), (0x11351, 0x11356),
    (0x11358, 0x1135c), (0x11364, 0x11365), (0x1136d, 0x1136f), (0x11375, 0x1137f),
    (0x1138a, 0x1138a), (0x1138c, 0x1138d), (0x1138f, 0x1138f), (0x113b6, 0x113b6),
    (0x113c1, 0x113c1), (0x113c3, 0x113c4), (0x113c6, 0x113c6), (0x113cb, 0x113cb),
    (0x113d6, 0x113d6), (0x113d9, 0x113e0), (0x113e3, 0x113ff), (0x1145c, 0x1145c),
    (0x11462, 0x1147f), (0x114c8, 0x114cf), (0x114da, 0x1157f), (0x115b6, 0x115b7),
    (0x115de, 0x115ff), (0x11645, 0x1164f), (0x1165a, 0x1165f), (0x1166d, 0x1167f),
    (0x116ba, 0x116bf), (0x116ca, 0x116cf), (0x116e4, 0x116ff), (0x1171b, 0x1171c),
    (0x1172c, 0x1172f), (0x11747, 0x117ff), (0x1183c, 0x1189f), (0x118f3, 0x118fe),
    (0x11907, 0x11908), (0x1190a, 0x1190b), (0x11914, 0x11914), (0x11917, 0x11917),
    (0x11936, 0x11936), (0x11939, 0x1193a), (0x11947, 0x1194f), (0x1195a, 0x1199f),
    (0x119a8, 0x119a9), (0x119d8, 0x119d9), (0x119e5, 0x119ff), (0x11a48, 0x11a4f),
    (0x11aa3, 0x11aaf), (0x11af9, 0x11aff), (0x11b0a, 0x11b5f), (0x11b68, 0x11bbf),
    (0x11be2, 0x11bef), (0x11bfa, 0x11bff), (0x11c09, 0x11c09), (0x11c37, 0x11c37),
    (0x11c46, 0x11c4f), (0x11c6d, 0x11c6f), (0x11c90, 0x11c91), (0x11ca8, 0x11ca8),
    (0x11cb7, 0x11cff), (0x11d07, 0x11d07), (0x11d0a, 0x11d0a), (0x11d37, 0x11d39),
    (0x11d3b, 0x11d3b), (0x11d3e, 0x11d3e), (0x11d48, 0x11d4f), (0x11d5a, 0x11d5f),
    (0x11d66, 0x11d66), (0x11d69, 0x11d69), (0x11d8f, 0x11d8f), (0x11d92, 0x11d92),
    (0x11d99, 0x11d9f), (0x11daa, 0x11daf), (0x11ddc, 0x11ddf), (0x11dea, 0x11edf),
    (0x11ef9, 0x11eff), (0x11f11, 0x11f11), (0x11f3b, 0x11f3d), (0x11f5b, 0x11faf),
    (0x11fb1, 0x11fbf), (0x11ff2, 0x11ffe), (0x1239a, 0x123ff), (0x1246f, 0x1246f),
    (0x12475, 0x1247f), (0x12544, 0x12f8f), (0x12ff3, 0x12fff), (0x13430, 0x1343f),
    (0x13456, 0x1345f), (0x143fb, 0x143ff), (0x14647, 0x160ff), (0x1613a, 0x167ff),
    (0x16a39, 0x16a3f), (0x16a5f, 0x16a5f), (0x16a6a, 0x16a6d), (0x16abf, 0x16abf),
    (0x16aca, 0x16acf), (0x16aee, 0x16aef), (0x16af6, 0x16aff), (0x16b46, 0x16b4f),
    (0x16b5a, 0x16b5a), (0x16b62, 0x16b62), (0x16b78, 0x16b7c), (0x16b90, 0x16d3f),
    (0x16d7a, 0x16e3f), (0x16e9b, 0x16e9f), (0x16eb9, 0x16eba), (0x16ed4, 0x16eff),
    (0x16f4b, 0x16f4e), (0x16f88, 0x16f8e), (0x16fa0, 0x16fdf), (0x16fe5, 0x16fef),
    (0x16ff7, 0x16fff), (0x18cd6, 0x18cfe), (0x18d1f, 0x18d7f), (0x18df3, 0x1afef),
    (0x1aff4, 0x1aff4), (0x1affc, 0x1affc), (0x1afff, 0x1afff), (0x1b123, 0x1b131),
    (0x1b133, 0x1b14f), (0x1b153, 0x1b154), (0x1b156, 0x1b163), (0x1b168, 0x1b16f),
    (0x1b2fc, 0x1bbff), (0x1bc6b, 0x1bc6f), (0x1bc7d, 0x1bc7f), (0x1bc89, 0x1bc8f),
    (0x1bc9a, 0x1bc9b), (0x1bca4, 0x1cbff), (0x1ccfd, 0x1ccff), (0x1ceb4, 0x1ceb9),
    (0x1ced1, 0x1cedf), (0x1cef1, 0x1ceff), (0x1cf2e, 0x1cf2f), (0x1cf47, 0x1cf4f),
    (0x1cfc4, 0x1cfff), (0x1d0f6, 0x1d0ff), (0x1d127, 0x1d128), (0x1d1eb, 0x1d1ff),
    (0x1d246, 0x1d2bf), (0x1d2d4, 0x1d2df), (0x1d2f4, 0x1d2ff), (0x1d357, 0x1d35f),
    (0x1d379, 0x1d3ff), (0x1d455, 0x1d455), (0x1d49d, 0x1d49d), (0x1d4a0, 0x1d4a1),
    (0x1d4a3, 0x1d4a4), (0x1d4a7, 0x1d4a8), (0x1d4ad, 0x1d4ad), (0x1d4ba, 0x1d4ba),
    (0x1d4bc, 0x1d4bc), (0x1d4c4, 0x1d4c4), (0x1d506, 0x1d506), (0x1d50b, 0x1d50c),
    (0x1d515, 0x1d515), (0x1d51d, 0x1d51d), (0x1d53a, 0x1d53a), (0x1d53f, 0x1d53f),
    (0x1d545, 0x1d545), (0x1d547, 0x1d549), (0x1d551, 0x1d551), (0x1d6a6, 0x1d6a7),
    (0x1d7cc, 0x1d7cd), (0x1da8c, 0x1da9a), (0x1daa0, 0x1daa0), (0x1dab0, 0x1deff),
    (0x1df1f, 0x1df24), (0x1df2b, 0x1dfff), (0x1e007, 0x1e007), (0x1e019, 0x1e01a),
    (0x1e022, 0x1e022), (0x1e025, 0x1e025), (0x1e02b, 0x1e02f), (0x1e06e, 0x1e08e),
    (0x1e090, 0x1e0ff), (0x1e12d, 0x1e12f), (0x1e13e, 0x1e13f), (0x1e14a, 0x1e14d),
    (0x1e150, 0x1e28f), (0x1e2af, 0x1e2bf), (0x1e2fa, 0x1e2fe), (0x1e300, 0x1e4cf),
    (0x1e4fa, 0x1e5cf), (0x1e5fb, 0x1e5fe), (0x1e600, 0x1e6bf), (0x1e6df, 0x1e6df),
    (0x1e6f6, 0x1e6fd), (0x1e700, 0x1e7df), (0x1e7e7, 0x1e7e7), (0x1e7ec, 0x1e7ec),
    (0x1e7ef, 0x1e7ef), (0x1e7ff, 0x1e7ff), (0x1e8c5, 0x1e8c6), (0x1e8d7, 0x1e8ff),
    (0x1e94c, 0x1e94f), (0x1e95a, 0x1e95d), (0x1e960, 0x1ec70), (0x1ecb5, 0x1ed00),
    (0x1ed3e, 0x1edff), (0x1ee04, 0x1ee04), (0x1ee20, 0x1ee20), (0x1ee23, 0x1ee23),
    (0x1ee25, 0x1ee26), (0x1ee28, 0x1ee28), (0x1ee33, 0x1ee33), (0x1ee38, 0x1ee38),
    (0x1ee3a, 0x1ee3a), (0x1ee3c, 0x1ee41), (0x1ee43, 0x1ee46), (0x1ee48, 0x1ee48),
    (0x1ee4a, 0x1ee4a), (0x1ee4c, 0x1ee4c), (0x1ee50, 0x1ee50), (0x1ee53, 0x1ee53),
    (0x1ee55, 0x1ee56), (0x1ee58, 0x1ee58), (0x1ee5a, 0x1ee5a), (0x1ee5c, 0x1ee5c),
    (0x1ee5e, 0x1ee5e), (0x1ee60, 0x1ee60), (0x1ee63, 0x1ee63), (0x1ee65, 0x1ee66),
    (0x1ee6b, 0x1ee6b), (0x1ee73, 0x1ee73), (0x1ee78, 0x1ee78), (0x1ee7d, 0x1ee7d),
    (0x1ee7f, 0x1ee7f), (0x1ee8a, 0x1ee8a), (0x1ee9c, 0x1eea0), (0x1eea4, 0x1eea4),
    (0x1eeaa, 0x1eeaa), (0x1eebc, 0x1eeef), (0x1eef2, 0x1efff), (0x1f02c, 0x1f02f),
    (0x1f094, 0x1f09f), (0x1f0af, 0x1f0b0), (0x1f0c0, 0x1f0c0), (0x1f0d0, 0x1f0d0),
    (0x1f0f6, 0x1f100), (0x1f1ae, 0x1f1e5), (0x1f203, 0x1f20f), (0x1f23c, 0x1f23f),
    (0x1f249, 0x1f24f), (0x1f252, 0x1f25f), (0x1f266, 0x1f2ff), (0x1f6d9, 0x1f6db),
    (0x1f6ed, 0x1f6ef), (0x1f6fd, 0x1f6ff), (0x1f7da, 0x1f7df), (0x1f7ec, 0x1f7ef),
    (0x1f7f1, 0x1f7ff), (0x1f80c, 0x1f80f), (0x1f848, 0x1f84f), (0x1f85a, 0x1f85f),
    (0x1f888, 0x1f88f), (0x1f8ae, 0x1f8af), (0x1f8bc, 0x1f8bf), (0x1f8c2, 0x1f8cf),
    (0x1f8d9, 0x1f8ff), (0x1fa58, 0x1fa5f), (0x1fa6e, 0x1fa6f), (0x1fa7d, 0x1fa7f),
    (0x1fa8b, 0x1fa8d), (0x1fac7, 0x1fac7), (0x1fac9, 0x1facc), (0x1fadd, 0x1fade),
    (0x1faeb, 0x1faee), (0x1faf9, 0x1faff), (0x1fb93, 0x1fb93), (0x1fbfb, 0x1ffff),
    (0x2a6e0, 0x2a6ff), (0x2b81e, 0x2b81f), (0x2ceae, 0x2ceaf), (0x2ebe1, 0x2ebef),
    (0x2ee5e, 0x2f7ff), (0x2fa1e, 0x2ffff), (0x3134b, 0x3134f), (0x3347a, 0xe00ff),
    (0xe01f0, 0x10ffff)]

def afterPair? (c : Char) : List Char -> Option Char
  | first :: second :: rest => if first = c then some second else afterPair? c rest
  | _ => none

def replaced? (c : Char) : Option (List Char) :=
  match singleRows.findSome? fun row => afterPair? c row.toList with
  | some single => some [single]
  | none =>
      (multipleRows.find? fun row => row.toList.head? == some c).map fun row => row.toList.drop 1

def isKept (c : Char) : Bool :=
  if c.toNat < 128 then !c.isUpper
  else !Text.inRanges refusedRanges c && !Text.inRanges droppedRanges c && (replaced? c).isNone

def mapChars? : List Char -> Option (List Char)
  | [] => some []
  | c :: rest => do
      let tail ← mapChars? rest
      if c.toNat < 128 then return c.toLower :: tail
      else if Text.inRanges refusedRanges c then none
      else if Text.inRanges droppedRanges c then return tail
      else return (replaced? c).getD [c] ++ tail

end Domain
end HangulConsole
